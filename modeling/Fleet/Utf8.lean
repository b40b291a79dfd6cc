/-!
# Byte strings and their reading as UTF-8

A session, a file and a path are byte strings; what is printed is text. Two readings of a byte
string as text are needed. `decode?` refuses what is not UTF-8 and says where it stops being so;
`lossy` never refuses and puts one replacement character for each longest start of a character that
what follows breaks off.

Both are folds of one step, `lead`, which reads a single character from the front.
-/

namespace Fleet

/-- A string of bytes. -/
abbrev Bytes := List UInt8

namespace Utf8

/-- What a non-empty byte string starts with. Each case counts the bytes after the first one that
belong to it. -/
inductive Lead where
  /-- A whole character. -/
  | character (c : Char) (more : Nat)
  /-- Bytes that begin a character and are followed by a byte which cannot continue it, or one
  byte that begins none. -/
  | broken (more : Nat)
  /-- Bytes that begin a character, cut short by the end of the string. -/
  | unfinished (more : Nat)
  deriving Repr, DecidableEq

namespace Lead

/-- How many bytes after the first one the case takes. -/
def more : Lead → Nat
  | character _ n => n
  | broken n => n
  | unfinished n => n

end Lead

/-- For a first byte outside ASCII: how many bytes must follow it, and the least and the greatest
value the next one may have. The narrowed ranges keep out overlong forms, surrogates and values
above the last code point. -/
def opening (b : UInt8) : Option (Nat × UInt8 × UInt8) :=
  if b < 0xC2 then none
  else if b < 0xE0 then some (1, 0x80, 0xBF)
  else if b == 0xE0 then some (2, 0xA0, 0xBF)
  else if b == 0xED then some (2, 0x80, 0x9F)
  else if b < 0xF0 then some (2, 0x80, 0xBF)
  else if b == 0xF0 then some (3, 0x90, 0xBF)
  else if b < 0xF4 then some (3, 0x80, 0xBF)
  else if b == 0xF4 then some (3, 0x80, 0x8F)
  else none

/-- How many of the wanted continuation bytes are there. Only the first has a range of its own. -/
def continuations : Nat → UInt8 → UInt8 → Bytes → Nat
  | 0, _, _, _ => 0
  | _ + 1, _, _, [] => 0
  | n + 1, low, high, b :: rest =>
    if low ≤ b ∧ b ≤ high then continuations n 0x80 0xBF rest + 1 else 0

theorem continuations_le (n : Nat) (low high : UInt8) (bs : Bytes) :
    continuations n low high bs ≤ bs.length := by
  induction bs generalizing n low high with
  | nil => cases n <;> simp [continuations]
  | cons b rest ih =>
    cases n with
    | zero => simp [continuations]
    | succ n =>
      simp only [continuations, List.length_cons]
      split
      · exact Nat.succ_le_succ (ih n 0x80 0xBF)
      · exact Nat.zero_le _

/-- The value of a character from its first byte's payload bits and its continuation bytes. -/
def combine (first : UInt8) (count : Nat) (rest : Bytes) : Char :=
  let payload := if count = 1 then first &&& 0x1F else if count = 2 then first &&& 0x0F
    else first &&& 0x07
  Char.ofNat <| (rest.take count).foldl (fun acc b => acc * 64 + (b &&& 0x3F).toNat) payload.toNat

/-- Reads one character from the front of `b :: rest`. -/
def lead (b : UInt8) (rest : Bytes) : Lead :=
  if b < 0x80 then .character (Char.ofNat b.toNat) 0
  else match opening b with
    | none => .broken 0
    | some (count, low, high) =>
      let found := continuations count low high rest
      if found = count then .character (combine b count rest) count
      else if found = rest.length then .unfinished found
      else .broken found

def encode (text : String) : Bytes :=
  text.toList.flatMap String.utf8EncodeChar

/-- Stands for bytes that are no text. -/
def replacement : Char := Char.ofNat 0xFFFD

/-- The text of a byte string, with one replacement character for each piece that is not UTF-8. -/
def lossyChars : Bytes → List Char
  | [] => []
  | b :: rest =>
    match lead b rest with
    | .character c n => c :: lossyChars (rest.drop n)
    | .broken n => replacement :: lossyChars (rest.drop n)
    | .unfinished n => replacement :: lossyChars (rest.drop n)
termination_by bs => bs.length
decreasing_by all_goals simp only [List.length_drop, List.length_cons]; omega

@[inherit_doc lossyChars]
def lossy (bs : Bytes) : String := String.ofList (lossyChars bs)

/-- Where a byte string stops being UTF-8. -/
structure Malformed where
  /-- The number of bytes before the offending piece. -/
  index : Nat
  /-- The length of the offending piece; none when it is cut short by the end of the string. -/
  length : Option Nat
  deriving Repr, DecidableEq

/-- The text of a byte string that is UTF-8; the bytes before it number `index`. -/
def decodeFrom (index : Nat) : Bytes → Except Malformed (List Char)
  | [] => .ok []
  | b :: rest =>
    match lead b rest with
    | .character c n => (decodeFrom (index + n + 1) (rest.drop n)).map (c :: ·)
    | .broken n => .error ⟨index, some (n + 1)⟩
    | .unfinished _ => .error ⟨index, none⟩
termination_by bs => bs.length
decreasing_by simp only [List.length_drop, List.length_cons]; omega

/-- The text of a byte string that is UTF-8, or the first place where it is not. -/
def decode? (bs : Bytes) : Except Malformed String :=
  (decodeFrom 0 bs).map String.ofList

end Utf8

end Fleet
