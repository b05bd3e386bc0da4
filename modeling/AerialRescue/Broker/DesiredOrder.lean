import AerialRescue.Broker.Desired

/-!
# The order of a desired state

What the order of an apply rests on: one object for each role, queues that
their names determine, owners that have a username, and dead-message queues
that come before the queues that name them.
-/

namespace AerialRescue.Broker.Desired

open AerialRescue.Lib.Guard
open AerialRescue.Broker.Subscriptions AerialRescue.Broker.Queues
open AerialRescue.Domain.Principals

/-- Every dead-message queue that a queue names comes before it. -/
def Preceded (queues : List QueueSpec) : Prop :=
  ∀ before queue after, queues = before ++ queue :: after →
    ∀ name, queue.deadMessageQueue = some name →
      ∃ held ∈ before, held.name = name

/-- What an apply relies on in the state that it writes. -/
structure Ordered (state : DesiredState) : Prop where
  profiles :
    state.profiles.map ProfileState.name = Principal.all.map Principal.value
  clientProfiles : state.clientProfiles = Principal.all.map clientProfile
  usernames :
    state.usernames.map UsernameState.name =
      (Principal.all.filter (· ≠ .discovery)).map Principal.value
  templates : state.queueTemplates = queueTemplates
  queues :
    ∀ left ∈ state.queues, ∀ right ∈ state.queues,
      left.name = right.name → left = right
  owners :
    ∀ queue ∈ state.queues,
      queue.owner = "" ∨ queue.owner ∈ state.usernames.map UsernameState.name
  preceded : Preceded state.queues
  templateQueues :
    ∀ template ∈ queueTemplates, templateQueue template ∈ state.queues

/-! ## Primary queues -/

section Primaries

variable {drones : List String} {primaries : List QueueSpec}

/-- A fleet's queue is that of a drone. -/
theorem droneQueues_source {queues : List QueueSpec} {queue : QueueSpec}
    (built : droneQueues drones = .ok queues) (member : queue ∈ queues) :
    ∃ drone subscription, droneQueueName drone = .ok queue.name ∧
      droneCommandSubscription drone = .ok subscription ∧
      queue =
        applicationQueue queue.name Principal.fleetSimulator.value
          [subscription] := by
  rcases mapM_ok_source built member with ⟨drone, _, queued⟩
  simp only [recast_eq_ok, bind_eq_ok, pure_eq_ok] at queued
  rcases queued with ⟨name, named, subscription, subscribed, rfl⟩
  exact ⟨drone, subscription, named, subscribed, rfl⟩

/-- The name of a drone's queue determines it. -/
theorem droneQueues_of_name {queues : List QueueSpec}
    (built : droneQueues drones = .ok queues) {left right : QueueSpec}
    (leftMember : left ∈ queues) (rightMember : right ∈ queues)
    (same : left.name = right.name) : left = right := by
  rcases droneQueues_source built leftMember with
    ⟨drone, subscription, named, subscribed, spelled⟩
  rcases droneQueues_source built rightMember with
    ⟨other, otherSubscription, otherNamed, otherSubscribed, otherSpelled⟩
  have names := (droneQueueName_ok.1 named).2
  rw [same, (droneQueueName_ok.1 otherNamed).2] at names
  have drones : other = drone := (String.append_right_inj _).1 names
  rw [drones, subscribed] at otherSubscribed
  cases otherSubscribed
  rw [spelled, otherSpelled, same]

theorem primaryQueues_mem (built : primaryQueues drones = .ok primaries)
    {queue : QueueSpec} (member : queue ∈ primaries) :
    (∃ queues, droneQueues drones = .ok queues ∧ queue ∈ queues) ∨
      queue ∈ fixedQueues := by
  rw [primaryQueues_eq] at built
  cases droned : droneQueues drones with
  | error failure =>
      rw [droned] at built
      cases built
  | ok queues =>
      rw [droned] at built
      cases built
      rcases List.mem_append.1 member with ofDrone | fixed
      · exact .inl ⟨queues, rfl, ofDrone⟩
      · exact .inr fixed

/-- The fixed queues have names of their own, which no drone's queue has. -/
theorem fixedQueues_names :
    (fixedQueues.map QueueSpec.name).Nodup ∧
      (fixedQueues.all fun queue =>
        !droneQueuePrefix.toList.isPrefixOf queue.name.toList) = true := by
  decide +kernel

theorem fixedQueues_notDrone {queue : QueueSpec}
    (member : queue ∈ fixedQueues) {drone : String} :
    droneQueueName drone ≠ .ok queue.name := by
  intro named
  have other := List.all_eq_true.1 fixedQueues_names.2 queue member
  rw [(droneQueueName_ok.1 named).2, String.toList_append,
    Bool.not_eq_true', ← Bool.not_eq_true, List.isPrefixOf_iff_prefix]
    at other
  exact other (List.prefix_append ..)

/-- The name of a primary queue determines it. -/
theorem primaryQueues_of_name (built : primaryQueues drones = .ok primaries)
    {left right : QueueSpec} (leftMember : left ∈ primaries)
    (rightMember : right ∈ primaries) (same : left.name = right.name) :
    left = right := by
  rcases primaryQueues_mem built leftMember with
    ⟨queues, droned, inQueues⟩ | fixed
  · rcases primaryQueues_mem built rightMember with
      ⟨others, droned', inOthers⟩ | fixed'
    · rw [droned, Except.ok.injEq] at droned'
      exact droneQueues_of_name droned inQueues (droned' ▸ inOthers) same
    · rcases droneQueues_source droned inQueues with ⟨drone, _, named, _⟩
      rw [same] at named
      exact absurd named (fixedQueues_notDrone fixed')
  · rcases primaryQueues_mem built rightMember with
      ⟨others, droned', inOthers⟩ | fixed'
    · rcases droneQueues_source droned' inOthers with ⟨drone, _, named, _⟩
      rw [← same] at named
      exact absurd named (fixedQueues_notDrone fixed)
    · exact List.inj_on_of_nodup_map fixedQueues_names.1 fixed fixed' same

/-- A primary queue belongs to a role that has a username, and names its own
dead-message queue. -/
theorem primaryQueues_shape (built : primaryQueues drones = .ok primaries)
    {queue : QueueSpec} (member : queue ∈ primaries) :
    (∃ role : Principal, role ≠ .discovery ∧ queue.owner = role.value) ∧
      queue.deadMessageQueue = some (deadMessageQueueName queue.name) := by
  rcases primaryQueues_mem built member with ⟨queues, droned, inQueues⟩ | fixed
  · rcases droneQueues_source droned inQueues with ⟨_, _, _, _, spelled⟩
    rw [spelled]
    exact ⟨⟨.fleetSimulator, by decide, rfl⟩, rfl⟩
  · have every : (fixedQueues.all fun queue =>
        (Principal.all.any fun role =>
          role ≠ .discovery && queue.owner = role.value) &&
        queue.deadMessageQueue = some (deadMessageQueueName queue.name)) =
          true := by
      decide +kernel
    have here := List.all_eq_true.1 every queue fixed
    rw [Bool.and_eq_true, List.any_eq_true, decide_eq_true_eq] at here
    rcases here with ⟨⟨role, _, owned⟩, paired⟩
    rw [Bool.and_eq_true, decide_eq_true_eq, decide_eq_true_eq] at owned
    exact ⟨⟨role, owned⟩, paired⟩

theorem primaryQueues_owned (built : primaryQueues drones = .ok primaries)
    {queue : QueueSpec} (member : queue ∈ primaries) :
    OwnedPrimary queue.name :=
  ⟨drones, primaries, built, List.mem_map_of_mem member⟩

/-- An owned primary name is no name of a template's queue. -/
theorem OwnedPrimary.notTemplate {name : String} (owned : OwnedPrimary name) :
    (queueTemplates.all fun template =>
      template.deadMessageQueue ≠ name &&
        template.deadMessageQueue ≠ deadMessageQueueName name) = true := by
  have opening : "aerial-rescue/".toList <+: name.toList := by
    rcases ownedPrimary_iff.1 owned with fixed | ⟨drone, named⟩
    · have every : ((fixedQueues.map QueueSpec.name).all fun queue =>
          "aerial-rescue/".toList.isPrefixOf queue.toList) = true := by
        decide +kernel
      exact List.isPrefixOf_iff_prefix.1 (List.all_eq_true.1 every name fixed)
    · rw [(droneQueueName_ok.1 named).2, String.toList_append]
      have start : "aerial-rescue/".toList <+: droneQueuePrefix.toList := by
        decide +kernel
      exact start.trans (List.prefix_append ..)
  have foreign : (queueTemplates.all fun template =>
      !"aerial-rescue/".toList.isPrefixOf template.deadMessageQueue.toList) =
        true := by
    decide +kernel
  rw [List.all_eq_true]
  intro template member
  have other := List.all_eq_true.1 foreign template member
  rw [Bool.not_eq_true', ← Bool.not_eq_true, List.isPrefixOf_iff_prefix]
    at other
  rw [Bool.and_eq_true, decide_eq_true_eq, decide_eq_true_eq]
  constructor
  · intro same
    exact other (same ▸ opening)
  · intro same
    rw [same, deadMessageQueueName, String.toList_append] at other
    exact other (opening.trans (List.prefix_append ..))

end Primaries

/-! ## All queues -/

theorem preceded_append {first second : List QueueSpec}
    (firstPreceded : Preceded first) (secondPreceded : Preceded second) :
    Preceded (first ++ second) := by
  intro before queue after split name named
  rcases List.append_eq_append_iff.1 split with
    ⟨middle, rfl, later⟩ | ⟨middle, rfl, earlier⟩
  · rcases secondPreceded middle queue after later name named with
      ⟨held, member, same⟩
    exact ⟨held, List.mem_append_right _ member, same⟩
  · cases middle with
    | nil =>
        rcases secondPreceded [] queue after earlier.symm name named with
          ⟨held, member, _⟩
        cases member
    | cons head rest =>
        rw [List.cons_append, List.cons.injEq] at earlier
        rcases earlier with ⟨rfl, _⟩
        exact firstPreceded before queue rest rfl name named

theorem preceded_unpaired {queues : List QueueSpec}
    (unpaired : ∀ queue ∈ queues, queue.deadMessageQueue = none) :
    Preceded queues := by
  rintro before queue after rfl name named
  rw [unpaired queue (by simp)] at named
  cases named

theorem preceded_pairs {primaries : List QueueSpec}
    (paired : ∀ queue ∈ primaries,
      queue.deadMessageQueue = some (deadMessageQueueName queue.name)) :
    Preceded (primaries.flatMap queuePair) := by
  induction primaries with
  | nil => exact preceded_unpaired fun queue member => by cases member
  | cons primary rest inductionHypothesis =>
      rw [List.flatMap_cons]
      refine preceded_append ?_ (inductionHypothesis fun queue member =>
        paired queue (List.mem_cons_of_mem _ member))
      rintro before queue after split name named
      rcases List.cons_eq_append_iff.1 split with
        ⟨rfl, same⟩ | ⟨others, rfl, later⟩
      · rw [List.cons.injEq] at same
        rw [same.1] at named
        cases named
      · refine ⟨_, List.mem_cons_self, ?_⟩
        rcases List.cons_eq_append_iff.1 later with
          ⟨rfl, same⟩ | ⟨_, _, nothing⟩
        · rw [List.cons.injEq] at same
          rw [same.1, paired primary List.mem_cons_self,
            Option.some.injEq] at named
          exact named
        · simp at nothing

section Built

variable {drones : List String} {primaries : List QueueSpec}

/-- The queues of a desired state are those of the templates, and each primary
queue with its dead-message queue. -/
theorem mem_desiredQueues {queue : QueueSpec} :
    queue ∈ queueTemplates.map templateQueue ++ primaries.flatMap queuePair ↔
      (∃ template ∈ queueTemplates, queue = templateQueue template) ∨
        ∃ primary ∈ primaries, queue = primary ∨
          queue = deadMessageQueue (deadMessageQueueName primary.name)
            primary.maxMessageBytes primary.maxDeliveredUnacked := by
  rw [List.mem_append, List.mem_map, List.mem_flatMap]
  constructor
  · rintro (⟨template, member, rfl⟩ | ⟨primary, member, inPair⟩)
    · exact .inl ⟨template, member, rfl⟩
    · rw [queuePair, List.mem_pair] at inPair
      exact .inr ⟨primary, member, inPair.symm⟩
  · rintro (⟨template, member, rfl⟩ | ⟨primary, member, inPair⟩)
    · exact .inl ⟨template, member, rfl⟩
    · refine .inr ⟨primary, member, ?_⟩
      rw [queuePair, List.mem_pair]
      exact inPair.symm

theorem deadMessageQueueName_injective :
    Function.Injective deadMessageQueueName :=
  fun _ _ same => (String.append_left_inj _).1 same

/-- A primary name is not that of another's dead-message queue. -/
theorem OwnedPrimary.ne_paired {name : String} (owned : OwnedPrimary name)
    (other : String) : name ≠ deadMessageQueueName other := by
  intro same
  refine owned.unpaired ?_
  rw [same, deadMessageQueueName, String.toList_append]
  exact List.suffix_append _ _

theorem templateQueue_of_name {left right : QueueTemplateSpec}
    (leftMember : left ∈ queueTemplates)
    (rightMember : right ∈ queueTemplates)
    (same : left.deadMessageQueue = right.deadMessageQueue) :
    left = right := by
  have distinct : (queueTemplates.map
      QueueTemplateSpec.deadMessageQueue).Nodup := by
    decide +kernel
  exact List.inj_on_of_nodup_map distinct leftMember rightMember same

/-- The name of a desired queue determines it. -/
theorem desiredQueues_of_name (built : primaryQueues drones = .ok primaries)
    {left right : QueueSpec}
    (leftMember :
      left ∈ queueTemplates.map templateQueue ++ primaries.flatMap queuePair)
    (rightMember :
      right ∈ queueTemplates.map templateQueue ++ primaries.flatMap queuePair)
    (same : left.name = right.name) : left = right := by
  have apart {template : QueueTemplateSpec} {primary : QueueSpec}
      (templateMember : template ∈ queueTemplates)
      (primaryMember : primary ∈ primaries) :
      template.deadMessageQueue ≠ primary.name ∧
        template.deadMessageQueue ≠ deadMessageQueueName primary.name := by
    have owned := primaryQueues_owned built primaryMember
    have here := List.all_eq_true.1 owned.notTemplate template templateMember
    rwa [Bool.and_eq_true, decide_eq_true_eq, decide_eq_true_eq] at here
  rcases mem_desiredQueues.1 leftMember with
    ⟨template, member, rfl⟩ | ⟨primary, member, rfl | rfl⟩
  · rcases mem_desiredQueues.1 rightMember with
      ⟨other, otherMember, rfl⟩ | ⟨other, otherMember, rfl | rfl⟩
    · rw [templateQueue_of_name member otherMember same]
    · exact absurd same (apart member otherMember).1
    · exact absurd same (apart member otherMember).2
  · have owned := primaryQueues_owned built member
    rcases mem_desiredQueues.1 rightMember with
      ⟨other, otherMember, rfl⟩ | ⟨other, otherMember, rfl | rfl⟩
    · exact absurd same.symm (apart otherMember member).1
    · exact primaryQueues_of_name built member otherMember same
    · exact absurd same (owned.ne_paired other.name)
  · rcases mem_desiredQueues.1 rightMember with
      ⟨other, otherMember, rfl⟩ | ⟨other, otherMember, rfl | rfl⟩
    · exact absurd same.symm (apart otherMember member).2
    · have owned := primaryQueues_owned built otherMember
      exact absurd same.symm (owned.ne_paired primary.name)
    · rw [primaryQueues_of_name built member otherMember
        (deadMessageQueueName_injective same)]

end Built

/-! ## Desired states -/

/-- Validated items have the names of what they are validated from. -/
theorem mapM_names {α β ε γ : Type} {build : α → Except ε β} {name : β → γ}
    {named : α → γ} {items : List α} {results : List β}
    (names : ∀ item result, build item = .ok result →
      name result = named item)
    (built : items.mapM build = .ok results) :
    results.map name = items.map named := by
  induction items generalizing results with
  | nil =>
      cases built
      rfl
  | cons first rest inductionHypothesis =>
      simp only [List.mapM_cons, bind_eq_ok, pure_eq_ok] at built
      rcases built with ⟨result, made, others, rest, rfl⟩
      rw [List.map_cons, List.map_cons, names first result made,
        inductionHypothesis rest]

/-- A desired state is in the order that an apply relies on. -/
theorem desiredState_ordered {vpn : String} {credentials : Principal → String}
    {namespaceText : Option String} {drones : List String}
    {state : DesiredState}
    (built : desiredState vpn credentials namespaceText drones = .ok state) :
    Ordered state ∧ state.vpn = vpn := by
  simp only [desiredState, bind_eq_ok, recast_eq_ok, pure_eq_ok,
    desiredQueues] at built
  rcases built with
    ⟨profiles, profiled, usernames, named, queues, ⟨primaries, primary, rfl⟩,
      rfl⟩
  have usernameNames : usernames.map UsernameState.name =
      (Principal.all.filter (· ≠ .discovery)).map Principal.value := by
    refine mapM_names ?_ named
    intro role username made
    simp only [usernameFor, bind_eq_ok, pure_eq_ok] at made
    rcases made with ⟨_, _, rfl⟩
    rfl
  refine ⟨?_, rfl⟩
  constructor
  · refine mapM_names ?_ profiled
    intro role profile made
    simp only [profileFor, bind_eq_ok, pure_eq_ok] at made
    rcases made with ⟨_, _, _, _, rfl⟩
    rfl
  · rfl
  · exact usernameNames
  · rfl
  · exact fun left leftMember right rightMember same =>
      desiredQueues_of_name primary leftMember rightMember same
  · intro queue member
    rcases mem_desiredQueues.1 member with
      ⟨template, _, rfl⟩ | ⟨held, heldMember, rfl | rfl⟩
    · exact .inl rfl
    · rcases (primaryQueues_shape primary heldMember).1 with
        ⟨role, messaging, owner⟩
      refine .inr ?_
      rw [owner, usernameNames]
      refine List.mem_map_of_mem (List.mem_filter.2 ⟨role.mem_all, ?_⟩)
      exact decide_eq_true messaging
    · exact .inl rfl
  · refine preceded_append (preceded_unpaired ?_) (preceded_pairs ?_)
    · intro queue member
      rcases List.mem_map.1 member with ⟨template, _, rfl⟩
      rfl
    · exact fun queue member => (primaryQueues_shape primary member).2
  · exact fun template member =>
      List.mem_append_left _ (List.mem_map_of_mem member)

end AerialRescue.Broker.Desired
