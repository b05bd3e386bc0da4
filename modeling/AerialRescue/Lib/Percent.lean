import Mathlib.Data.List.Basic
import Mathlib.Tactic.Common

/-!
# Percent encoding

Octets as text in which an octet outside the unreserved characters is a percent
sign with two hexadecimal digits, and the octets that a text of that kind
stands for.
-/

namespace AerialRescue.Lib.Percent

/-- The hexadecimal digits. -/
def hexDigits : List Char :=
  "0123456789ABCDEF".toList

/-- The digit of a number below sixteen. -/
def hexDigit (value : Nat) : Char :=
  hexDigits.getD value '0'

/-- The number of a digit, in either case. -/
def hexValue (digit : Char) : Option Nat :=
  if digit.toUpper ∈ hexDigits then some (hexDigits.idxOf digit.toUpper)
  else none

/-- The characters that stand for themselves. -/
def isUnreserved (character : Char) : Bool :=
  character.isAlphanum || "_.-~".toList.contains character

/-- One octet as text. -/
def quoteOctet (octet : UInt8) : List Char :=
  let character := Char.ofNat octet.toNat
  if octet.toNat < 128 && isUnreserved character then [character]
  else
    ['%', hexDigit (octet.toNat / 16), hexDigit (octet.toNat % 16)]

/-- Octets as text. -/
def quote (octets : List UInt8) : List Char :=
  octets.flatMap quoteOctet

/-- The octets that a text stands for. -/
def unquote : List Char → List UInt8
  | [] => []
  | '%' :: high :: low :: rest =>
      match hexValue high, hexValue low with
      | some upper, some lower =>
          UInt8.ofNat (16 * upper + lower) :: unquote rest
      | _, _ => String.utf8EncodeChar '%' ++ unquote (high :: low :: rest)
  | character :: rest => String.utf8EncodeChar character ++ unquote rest

theorem hexValue_hexDigit :
    ∀ value < 16, hexValue (hexDigit value) = some value := by
  decide +kernel

/-- A character that stands for itself is one octet and no percent sign. -/
theorem utf8EncodeChar_unreserved :
    ∀ value < 128, isUnreserved (Char.ofNat value) = true →
      Char.ofNat value ≠ '%' ∧
        String.utf8EncodeChar (Char.ofNat value) = [UInt8.ofNat value] := by
  decide +kernel

theorem unquote_cons {character : Char} (plain : character ≠ '%')
    (rest : List Char) :
    unquote (character :: rest) =
      String.utf8EncodeChar character ++ unquote rest := by
  rw [unquote.eq_3 character rest (fun _ _ _ percent => absurd percent plain)]

theorem unquote_percent {upper lower : Nat} (highest : upper < 16)
    (lowest : lower < 16) (rest : List Char) :
    unquote ('%' :: hexDigit upper :: hexDigit lower :: rest) =
      UInt8.ofNat (16 * upper + lower) :: unquote rest := by
  rw [unquote, hexValue_hexDigit upper highest, hexValue_hexDigit lower lowest]

theorem unquote_quoteOctet (octet : UInt8) (rest : List Char) :
    unquote (quoteOctet octet ++ rest) = octet :: unquote rest := by
  unfold quoteOctet
  dsimp only
  split
  · rename_i unreserved
    rw [Bool.and_eq_true, decide_eq_true_eq] at unreserved
    rcases utf8EncodeChar_unreserved _ unreserved.1 unreserved.2 with
      ⟨plain, octets⟩
    rw [List.singleton_append, unquote_cons plain, octets, UInt8.ofNat_toNat]
    rfl
  · have below := octet.toNat_lt
    rw [List.cons_append, List.cons_append, List.singleton_append,
      unquote_percent (by omega) (by omega), Nat.div_add_mod,
      UInt8.ofNat_toNat]

/-- A quoted text stands for what was quoted. -/
theorem unquote_quote (octets : List UInt8) :
    unquote (quote octets) = octets := by
  induction octets with
  | nil => rfl
  | cons octet rest inductionHypothesis =>
      rw [quote, List.flatMap_cons, unquote_quoteOctet]
      exact congrArg (octet :: ·) inductionHypothesis

theorem quote_injective : Function.Injective quote :=
  Function.LeftInverse.injective unquote_quote

/-- A beginning without a percent sign stands for itself. -/
theorem unquote_append {characters : List Char} (plain : '%' ∉ characters)
    (rest : List Char) :
    unquote (characters ++ rest) =
      characters.flatMap String.utf8EncodeChar ++ unquote rest := by
  induction characters with
  | nil => rfl
  | cons character others inductionHypothesis =>
      rw [List.mem_cons, not_or] at plain
      rw [List.cons_append, unquote_cons (Ne.symm plain.1),
        inductionHypothesis plain.2, List.flatMap_cons, List.append_assoc]

/-- A text without a percent sign stands for itself. -/
theorem unquote_plain {characters : List Char} (plain : '%' ∉ characters) :
    unquote characters = characters.flatMap String.utf8EncodeChar := by
  have appended := unquote_append plain []
  rw [List.append_nil] at appended
  rw [appended]
  exact List.append_nil _

/-- A text stands for no more octets than it has. -/
theorem length_unquote_le (characters : List Char) :
    (unquote characters).length ≤
      (characters.flatMap String.utf8EncodeChar).length := by
  fun_induction unquote characters with
  | case1 => exact Nat.le_refl _
  | case2 high low rest upper lower _ _ inductionHypothesis =>
      have percent : (String.utf8EncodeChar '%').length = 1 := by decide
      simp only [List.flatMap_cons, List.length_append, List.length_cons,
        percent]
      omega
  | case3 high low rest _ inductionHypothesis =>
      simp only [List.flatMap_cons, List.length_append]
        at inductionHypothesis ⊢
      omega
  | case4 character rest _ inductionHypothesis =>
      simp only [List.flatMap_cons, List.length_append]
      omega

/-- A quoted octet is no separator of a path. -/
theorem slash_notMem_quote (octets : List UInt8) : '/' ∉ quote octets := by
  have each : ∀ value < 256, '/' ∉ quoteOctet (UInt8.ofNat value) := by
    decide +kernel
  intro member
  rcases List.mem_flatMap.1 member with ⟨octet, _, inside⟩
  have here := each octet.toNat octet.toNat_lt
  rw [UInt8.ofNat_toNat] at here
  exact here inside

end AerialRescue.Lib.Percent
