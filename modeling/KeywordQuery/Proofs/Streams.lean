import Mathlib.Data.List.Basic
import Mathlib.Data.List.TakeWhile
import KeywordQuery.Encoding.Stream

/-!
# What streams print

A stream prints a text exactly if it takes each unit of it, so what it takes of two texts it takes
of both together.  ASCII is printed as it is by every stream, and the wording of a refusal is
ASCII: a refusal can always be told.

* `write_of_takes`, `write_of_refuses` — what is printed of a text;
* `write_of_keeps` — a text that is taken as it is;
* `keeps_of_isAscii` — ASCII is;
* `IsPlain` — the visible characters of ASCII, and the blank; digits are plain;
* `EncodeFault.isAscii_message` — the wording of a refusal.
-/

namespace KeywordQuery

/-! ### Plain characters -/

namespace Text

/-- The character is a visible one of ASCII, or the blank. -/
abbrev IsPlain (c : Char) : Prop := 0x20 ≤ c.toNat ∧ c.toNat < 0x80

theorem isPlain_of_all {cs : List Char} (h : (cs.all fun c => decide (IsPlain c)) = true) :
    ∀ c ∈ cs, IsPlain c := by
  simpa using h

theorem isPlain_of_mem_toDigits {n : Nat} {c : Char} (h : c ∈ Nat.toDigits 10 n) : IsPlain c := by
  have digit : c.isDigit = true := Nat.isDigit_of_mem_toDigits (by omega) (by omega) h
  have range := Char.isDigit_iff_toNat.mp digit
  simp only [Char.reduceToNat] at range
  exact ⟨by omega, by omega⟩

theorem isPlain_of_mem_hexDigits {width n : Nat} {c : Char} (h : c ∈ hexDigits width n) :
    IsPlain c := by
  induction width generalizing n with
  | zero => cases h
  | succ width ih =>
    rcases List.mem_append.mp h with higher | last
    · exact ih higher
    · have all : ∀ d < 16, IsPlain (Nat.digitChar d) := by decide
      rw [List.mem_singleton.mp last]
      exact all (n % 16) (Nat.mod_lt _ (by omega))

theorem isAscii_append (left right : String) :
    isAscii (left ++ right) = (isAscii left && isAscii right) := by
  rw [isAscii, String.toList_append, List.all_append]
  rfl

theorem isAscii_of_isPlain {cs : List Char} (h : ∀ c ∈ cs, IsPlain c) :
    isAscii (String.ofList cs) = true := by
  rw [isAscii, String.toList_ofList]
  exact List.all_eq_true.mpr fun c hc => decide_eq_true (h c hc).2

theorem isAscii_toString (n : Nat) : isAscii (toString n) = true :=
  isAscii_of_isPlain fun _ => isPlain_of_mem_toDigits

end Text

open Text (IsPlain isPlain_of_mem_hexDigits isAscii_append isAscii_of_isPlain isAscii_toString)

theorem TextUnit.isPlain_of_mem_escape {unit : TextUnit} {c : Char} (h : c ∈ unit.escape) :
    IsPlain c := by
  have marks : ∀ mark ∈ ['\\', 'x', 'u', 'U'], IsPlain mark := Text.isPlain_of_all (by decide)
  have digits {mark : Char} (known : mark ∈ ['\\', 'x', 'u', 'U']) {width n : Nat}
      (h : c ∈ '\\' :: mark :: Text.hexDigits width n) : IsPlain c := by
    rcases List.mem_cons.mp h with rfl | h
    · exact marks _ (by simp)
    rcases List.mem_cons.mp h with rfl | h
    · exact marks _ known
    · exact isPlain_of_mem_hexDigits h
  cases unit with
  | half unit => exact digits (by simp) h
  | char written =>
    simp only [escape, Text.hexEscape] at h
    split at h
    · exact digits (by simp) h
    split at h
    · exact digits (by simp) h
    · exact digits (by simp) h

namespace Encoding

/-! ### What is printed -/

namespace TextStream

variable {stream : TextStream} {text : RawText}

theorem takesUnit_of_isAscii {unit : TextUnit} (h : unit.isAscii = true) :
    stream.takesUnit unit = true := by
  rw [takesUnit, stream.takes_ascii unit h]
  rfl

theorem takes_append (left right : RawText) :
    stream.takes (left ++ right) = (stream.takes left && stream.takes right) := by
  rw [takes, RawText.toUnits_append, List.all_append]
  rfl

theorem takes_of_keeps (h : stream.Keeps text) : stream.takes text = true := by
  refine List.all_eq_true.mpr fun unit member => ?_
  rw [takesUnit, h unit member]
  rfl

theorem write_of_takes (h : stream.takes text = true) :
    stream.write text =
      .ok (.ofUnits (text.toUnits.flatMap fun unit => (stream.take? unit).getD [])) := by
  have none : text.toUnits.dropWhile stream.takesUnit = [] :=
    List.dropWhile_eq_nil_iff.mpr fun unit member => List.all_eq_true.mp h unit member
  rw [write, none]

/-- A text that is taken as it is is printed as it is. -/
theorem write_of_keeps (h : stream.Keeps text) : stream.write text = .ok text := by
  have same : (text.toUnits.flatMap fun unit => (stream.take? unit).getD []) = text.toUnits := by
    calc _ = text.toUnits.flatMap fun unit => [unit] :=
          List.flatMap_congr fun unit member => by rw [h unit member]; rfl
      _ = text.toUnits := List.flatMap_singleton' _
  rw [write_of_takes (takes_of_keeps h), same, RawText.ofUnits_toUnits]

theorem write_of_refuses (h : stream.takes text = false) :
    ∃ fault, stream.write text = .error fault := by
  rw [write]
  split
  · next none =>
    rw [List.dropWhile_eq_nil_iff] at none
    rw [takes, List.all_eq_true.mpr none] at h
    cases h
  · exact ⟨_, rfl⟩

theorem refuses_of_write {fault : EncodeFault} (h : stream.write text = .error fault) :
    stream.takes text = false := by
  rw [← Bool.not_eq_true]
  intro taken
  rw [write_of_takes taken] at h
  cases h

theorem takes_of_write {out : RawText} (h : stream.write text = .ok out) :
    stream.takes text = true := by
  rw [← Bool.not_eq_false]
  intro refused
  obtain ⟨fault, other⟩ := write_of_refuses refused
  rw [h] at other
  cases other

/-! ### ASCII -/

theorem keeps_of_isAscii {text : String} (h : Text.isAscii text = true) : stream.Keeps text := by
  intro unit member
  rw [RawText.toUnits_ofString, RawText.unitsOf] at member
  obtain ⟨c, hc, rfl⟩ := List.mem_map.mp member
  exact stream.takes_ascii _ (List.all_eq_true.mp h c hc)

end TextStream

namespace EncodeFault

theorem isAscii_place (fault : EncodeFault) : Text.isAscii fault.place = true := by
  rw [place]
  split
  · next unit _ =>
    have escaped : Text.isAscii (String.ofList unit.escape) = true :=
      isAscii_of_isPlain fun _ => TextUnit.isPlain_of_mem_escape
    simp only [isAscii_append, escaped, isAscii_toString, Bool.and_true]
    decide
  · simp only [isAscii_append, isAscii_toString, Bool.and_true]
    decide

/-- The wording of a refusal is ASCII if the names that it holds are. -/
theorem isAscii_message {fault : EncodeFault} (encoding : Text.isAscii fault.encoding = true)
    (reason : Text.isAscii fault.reason = true) : Text.isAscii fault.message = true := by
  simp only [message, isAscii_append, encoding, reason, isAscii_place, Bool.and_true]
  decide

/-- A refusal can be told on every stream. -/
theorem isAscii_message_of_write {stream : TextStream} {text : RawText} {fault : EncodeFault}
    (h : stream.write text = .error fault) : Text.isAscii fault.message = true := by
  rw [TextStream.write] at h
  split at h
  · cases h
  · cases h
    exact isAscii_message stream.isAscii_encoding stream.isAscii_reason

end EncodeFault

end Encoding

end KeywordQuery
