import AerialRescue.Store.Schema
import Mathlib.Algebra.BigOperators.Group.List.Basic
import Mathlib.Algebra.Ring.Int.Defs
import Mathlib.Data.List.Dedup
import Mathlib.Data.List.Perm.Basic

/-!
# The evidence score

The saturating sum of the admitted weights, the ordinal band it falls in, and
the two rules that gate an escalation: the escalating band takes two distinct
sources, and recorded evidence refuses the computation.  A score is counted in
hundredths.
-/

namespace AerialRescue.Domain.Scoring

open AerialRescue.Lib.Guard
open AerialRescue.Store

/-- Where a contribution came from. -/
inductive ObservationOrigin where
  | liveModel
  | liveSensor
  | recorded
deriving DecidableEq

/-- Why the score refuses a value. -/
inductive ScoreRefusal where
  | boundaries
  | weight
  | recordedContribution
deriving DecidableEq

/-- `ScoreError`, of a value refused at a source. -/
structure ScoreError where
  refusal : ScoreRefusal
  value : String
deriving DecidableEq

/-- `MINIMUM_SCORE` -/
def minimumScore : Int := 0

/-- `MAXIMUM_SCORE` -/
def maximumScore : Int := 100

/-- `MINIMUM_CORROBORATING_SOURCES` -/
def minimumCorroboratingSources : Nat := 2

/-- `BAND_ORDER` -/
def bandOrder : List EvidenceBand :=
  [.none, .weak, .supported, .corroborated]

/-- `BAND_ORDER.index(band)` -/
def bandIndex (band : EvidenceBand) : Nat :=
  bandOrder.idxOf band

/-- `ESCALATING_BAND` -/
def escalatingBand : EvidenceBand := .corroborated

/-- The lower bound of each band above `NONE`, as it is injected. -/
structure BoundaryValues where
  weak : Int
  supported : Int
  corroborated : Int
deriving DecidableEq

/-- `_check_boundaries` -/
def checkBoundaries (values : BoundaryValues) : Except ScoreRefusal Unit := do
  ensure
    (minimumScore < values.weak ∧ values.weak < values.supported ∧
      values.supported < values.corroborated ∧
      ¬maximumScore < values.corroborated)
    .boundaries

/-- Boundaries that the score accepts. -/
structure BandBoundaries extends BoundaryValues where
  valid : checkBoundaries toBoundaryValues = .ok ()
deriving DecidableEq

/-- One admitted evidence item. -/
structure Contribution where
  sourceId : String
  origin : ObservationOrigin
  weight : Int
  valid : minimumScore ≤ weight ∧ weight ≤ maximumScore
deriving DecidableEq

/-- `score` -/
def score (contributions : List Contribution) : Int :=
  min maximumScore (contributions.map Contribution.weight).sum

/-- `band_for` -/
def bandFor (total : Int) (boundaries : BandBoundaries) : EvidenceBand :=
  if boundaries.corroborated ≤ total then .corroborated
  else if boundaries.supported ≤ total then .supported
  else if boundaries.weak ≤ total then .weak
  else .none

/-- `corroborating_sources` -/
def corroboratingSources (contributions : List Contribution) : Nat :=
  (contributions.map Contribution.sourceId).dedup.length

/-- `_refuse_recorded` -/
def refuseRecorded : List Contribution → Except ScoreError Unit
  | [] => .ok ()
  | item :: rest =>
      if item.origin = .recorded then
        .error ⟨.recordedContribution, item.sourceId⟩
      else refuseRecorded rest

/-- The band below the escalating one. -/
def cappedBand : EvidenceBand :=
  bandOrder.getD (bandIndex escalatingBand - 1) .none

/-- `decision_band` -/
def decisionBand (contributions : List Contribution)
    (boundaries : BandBoundaries) : Except ScoreError EvidenceBand := do
  refuseRecorded contributions
  let band := bandFor (score contributions) boundaries
  let uncorroborated :=
    corroboratingSources contributions < minimumCorroboratingSources
  if band = escalatingBand ∧ uncorroborated then pure cappedBand
  else pure band

example : cappedBand = .supported := rfl

/-! ## What goes into a band -/

variable {contributions others : List Contribution}

theorem refuseRecorded_eq_ok {result : Unit} :
    refuseRecorded contributions = .ok result ↔
      ∀ item ∈ contributions, item.origin ≠ .recorded := by
  induction contributions with
  | nil => exact iff_of_true rfl nofun
  | cons first rest inductionHypothesis =>
      rw [refuseRecorded, List.forall_mem_cons]
      split
      · rename_i recorded
        exact iff_of_false nofun fun live => live.1 recorded
      · rename_i live
        rw [inductionHypothesis]
        exact (and_iff_right live).symm

theorem decisionBand_eq_ok {boundaries : BandBoundaries}
    {band : EvidenceBand} :
    decisionBand contributions boundaries = .ok band ↔
      (∀ item ∈ contributions, item.origin ≠ .recorded) ∧
        (if bandFor (score contributions) boundaries = .corroborated ∧
            corroboratingSources contributions < 2 then .supported
          else bandFor (score contributions) boundaries) = band := by
  simp only [decisionBand, bind_eq_ok, refuseRecorded_eq_ok, exists_const]
  refine and_congr_right fun _ => ?_
  change (if bandFor (score contributions) boundaries = .corroborated ∧
    corroboratingSources contributions < 2 then
      (.ok .supported : Except ScoreError EvidenceBand)
    else .ok (bandFor (score contributions) boundaries)) = .ok band ↔ _
  split <;> simp

/-! ## Order -/

theorem score_perm (reordered : contributions.Perm others) :
    score contributions = score others := by
  rw [score, score, (reordered.map Contribution.weight).sum_eq]

theorem corroboratingSources_perm (reordered : contributions.Perm others) :
    corroboratingSources contributions = corroboratingSources others :=
  (reordered.map Contribution.sourceId).dedup.length_eq

/-- What is decided does not depend on the order of the evidence. -/
theorem decisionBand_perm (boundaries : BandBoundaries)
    (reordered : contributions.Perm others) (band : EvidenceBand) :
    decisionBand contributions boundaries = .ok band ↔
      decisionBand others boundaries = .ok band := by
  rw [decisionBand_eq_ok, decisionBand_eq_ok, score_perm reordered,
    corroboratingSources_perm reordered]
  exact and_congr_left fun _ =>
    ⟨fun live item listed => live item (reordered.mem_iff.2 listed),
      fun live item listed => live item (reordered.mem_iff.1 listed)⟩

/-! ## More evidence -/

theorem score_le_cons (contributions : List Contribution)
    (added : Contribution) :
    score contributions ≤ score (added :: contributions) := by
  have weight : 0 ≤ added.weight := added.valid.1
  simp only [score, List.map_cons, List.sum_cons]
  omega

theorem corroboratingSources_le_cons (contributions : List Contribution)
    (added : Contribution) :
    corroboratingSources contributions ≤
      corroboratingSources (added :: contributions) := by
  unfold corroboratingSources
  rw [List.map_cons]
  by_cases known : added.sourceId ∈ contributions.map Contribution.sourceId
  · rw [List.dedup_cons_of_mem known]
  · rw [List.dedup_cons_of_notMem known, List.length_cons]
    exact Nat.le_succ _

theorem bandFor_mono {lower upper : Int} (boundaries : BandBoundaries)
    (more : lower ≤ upper) :
    bandIndex (bandFor lower boundaries) ≤
      bandIndex (bandFor upper boundaries) := by
  have valid := boundaries.valid
  simp only [checkBoundaries, ensure_eq_ok] at valid
  unfold bandFor
  split_ifs <;> first | omega | decide

theorem bandIndex_supported {band : EvidenceBand}
    (lower : band ≠ .corroborated) :
    bandIndex band ≤ bandIndex .supported := by
  cases band with
  | corroborated => exact absurd rfl lower
  | none => decide
  | weak => decide
  | supported => decide

/-- One more live contribution never lowers the band. -/
theorem decisionBand_cons {boundaries : BandBoundaries} {added : Contribution}
    {band : EvidenceBand} (live : added.origin ≠ .recorded)
    (decided : decisionBand contributions boundaries = .ok band) :
    ∃ higher, decisionBand (added :: contributions) boundaries = .ok higher ∧
      bandIndex band ≤ bandIndex higher := by
  rcases decisionBand_eq_ok.1 decided with ⟨allLive, rfl⟩
  refine ⟨_, decisionBand_eq_ok.2
    ⟨List.forall_mem_cons.2 ⟨live, allLive⟩, rfl⟩, ?_⟩
  have sources := corroboratingSources_le_cons contributions added
  have bands := bandFor_mono boundaries (score_le_cons contributions added)
  split_ifs with before after after
  · exact Nat.le_refl _
  · rw [before.1] at bands
    exact (by decide : bandIndex .supported ≤ bandIndex .corroborated).trans
      bands
  · have lower : bandFor (score contributions) boundaries ≠
        .corroborated := fun top => before ⟨top, by omega⟩
    exact bandIndex_supported lower
  · exact bands

/-! ## The laws of the band -/

/-- Two sources are counted when two contributions name different ones. -/
theorem two_sources (enough : 2 ≤ corroboratingSources contributions) :
    ∃ first ∈ contributions, ∃ second ∈ contributions,
      first.sourceId ≠ second.sourceId := by
  unfold corroboratingSources at enough
  have distinct := List.nodup_dedup
    (contributions.map Contribution.sourceId)
  cases sources : (contributions.map Contribution.sourceId).dedup with
  | nil =>
      rw [sources] at enough
      exact absurd enough (by decide)
  | cons one rest =>
      cases rest with
      | nil =>
          rw [sources] at enough
          exact absurd enough (by simp)
      | cons two later =>
          rw [sources, List.nodup_cons] at distinct
          have among (name : String) (listed : name ∈ one :: two :: later) :
              ∃ item ∈ contributions, item.sourceId = name := by
            rw [← sources, List.mem_dedup] at listed
            exact List.mem_map.1 listed
          rcases among one List.mem_cons_self with ⟨first, held, rfl⟩
          rcases among two (List.mem_cons_of_mem _ List.mem_cons_self) with
            ⟨second, other, rfl⟩
          refine ⟨first, held, second, other, fun same => distinct.1 ?_⟩
          rw [same]
          exact List.mem_cons_self

theorem decisionBand_corroborated {boundaries : BandBoundaries}
    (decided : decisionBand contributions boundaries = .ok .corroborated) :
    boundaries.corroborated ≤ score contributions ∧
      ∃ first ∈ contributions, ∃ second ∈ contributions,
        first.sourceId ≠ second.sourceId := by
  rcases decisionBand_eq_ok.1 decided with ⟨_, band⟩
  split at band
  · cases band
  · rename_i uncapped
    refine ⟨?_, two_sources (by_contra fun few =>
      uncapped ⟨band, Nat.lt_of_not_le few⟩)⟩
    unfold bandFor at band
    split_ifs at band
    assumption

theorem decisionBand_refuses {boundaries : BandBoundaries} :
    (∃ refusal, decisionBand contributions boundaries = .error refusal) ↔
      ∃ item ∈ contributions, item.origin = .recorded := by
  constructor
  · rintro ⟨refusal, refused⟩
    by_contra live
    have accepted : decisionBand contributions boundaries = .ok _ :=
      decisionBand_eq_ok.2
        ⟨fun item listed recorded => live ⟨item, listed, recorded⟩, rfl⟩
    rw [refused] at accepted
    cases accepted
  · rintro ⟨item, listed, recorded⟩
    cases decided : decisionBand contributions boundaries with
    | error refusal => exact ⟨refusal, rfl⟩
    | ok band =>
        exact absurd recorded ((decisionBand_eq_ok.1 decided).1 item listed)

/--
What is decided on live evidence does not depend on its order and is never
lowered by one more live contribution; the escalating band takes its boundary
and two sources; and recorded evidence, and nothing else, is refused.
-/
theorem decisionBand_laws (boundaries : BandBoundaries)
    (contributions : List Contribution) :
    (∀ others, contributions.Perm others → ∀ band,
      decisionBand contributions boundaries = .ok band ↔
        decisionBand others boundaries = .ok band) ∧
    (∀ added others band, added.origin ≠ .recorded →
      others.Perm (added :: contributions) →
      decisionBand contributions boundaries = .ok band →
        ∃ higher, decisionBand others boundaries = .ok higher ∧
          bandIndex band ≤ bandIndex higher) ∧
    (decisionBand contributions boundaries = .ok .corroborated →
      boundaries.corroborated ≤ score contributions ∧
        ∃ first ∈ contributions, ∃ second ∈ contributions,
          first.sourceId ≠ second.sourceId) ∧
    ((∃ refusal, decisionBand contributions boundaries = .error refusal) ↔
      ∃ item ∈ contributions, item.origin = .recorded) := by
  refine ⟨fun others reordered => decisionBand_perm boundaries reordered,
    fun added others band live reordered decided => ?_,
    decisionBand_corroborated, decisionBand_refuses⟩
  rcases decisionBand_cons live decided with ⟨higher, again, above⟩
  exact ⟨higher, (decisionBand_perm boundaries reordered higher).2 again,
    above⟩

end AerialRescue.Domain.Scoring
