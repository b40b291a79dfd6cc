import Fleet.LabelColor
import Fleet.Proofs.Numerals

/-!
# Painted labels

Painting puts control sequences around a text, and into it where it goes back to no colour itself.
It takes nothing away, and control sequences hold no newlines, so a painted label is on one line if
the label is (`Palette.newline_not_mem_label`).
-/

namespace Fleet

namespace Color

variable {mark more : List Char} {text : String}

/-- Nothing is in a text that was followed up but what was in it, and what was put in. -/
theorem mem_followUp {c : Char} {left : Nat} {chars : List Char}
    (among : c ∈ followUp mark more left chars) : c ∈ chars ∨ c ∈ more := by
  fun_induction followUp mark more left chars with
  | case1 => cases among
  | case2 left d rest ih =>
    rw [List.mem_cons, List.mem_append] at among
    rcases among with rfl | extra | later
    · exact .inl List.mem_cons_self
    · split at extra
      · exact .inr extra
      · cases extra
    · exact (ih later).imp_left (List.mem_cons_of_mem d)
  | case3 d rest _ ih | case4 d rest _ ih =>
    rcases List.mem_cons.mp among with rfl | later
    · exact .inl List.mem_cons_self
    · exact (ih later).imp_left (List.mem_cons_of_mem d)

theorem newline_not_mem_toDigits (n : Nat) : '\n' ∉ Nat.toDigits 10 n :=
  fun among => absurd (Numeral.isDigit_of_mem among) (by decide)

theorem newline_not_mem_selector (color : Color) (depth : ColorDepth) :
    '\n' ∉ (color.selector depth).toList := by
  cases depth with
  | plain => exact List.not_mem_nil
  | sixteen | full => simp [selector, newline_not_mem_toDigits]

/-- A control sequence is on the line that its codes are on. -/
theorem newline_not_mem_control {codes : String} (free : '\n' ∉ codes.toList) :
    '\n' ∉ (control codes).toList := by
  simp [control, free]

/-- **A painted text has no newlines of its own.** -/
theorem newline_not_mem_paint (color : Color) (depth : ColorDepth) (free : '\n' ∉ text.toList) :
    '\n' ∉ (color.paint depth text).toList := by
  have select := newline_not_mem_control (newline_not_mem_selector color depth)
  have reset : '\n' ∉ (control "0").toList := newline_not_mem_control (by decide)
  have painted : '\n' ∉ (control (color.selector depth) ++ String.ofList (followUp
      (control "0").toList (control (color.selector depth)).toList 0 text.toList)
      ++ control "0").toList := by
    simp only [String.toList_append, String.toList_ofList, List.mem_append, not_or]
    exact ⟨⟨select, fun among => (mem_followUp among).elim free select⟩, reset⟩
  cases depth with
  | plain => exact free
  | sixteen | full => exact painted

end Color

/-- **A label is on one line in any colour** if the bare label is. -/
theorem Palette.newline_not_mem_label (palette : Option Palette) (rank : Nat) {host : Host}
    (free : '\n' ∉ host.label.toList) : '\n' ∉ (Palette.label palette rank host).toList := by
  cases palette with
  | none => exact free
  | some palette => exact Color.newline_not_mem_paint _ _ free

end Fleet
