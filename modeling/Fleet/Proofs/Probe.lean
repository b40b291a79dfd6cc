import Fleet.Proofs.Decoding
import Fleet.Proofs.Extraction
import Fleet.Proofs.Relaying

/-!
# The status probe is invisible

Where exit statuses are wanted, a host says a marker and a number after its output. The marker need
not stand on a line of its own: it follows the output directly, which may break off in the middle of
a line or of a character. Still nothing of it is seen. It cannot be found too early, since it does
not overlap with itself (`marker_unbordered`), and what it follows is decoded as if the output had
ended there.

**The law** (`Relay.probe_invisible`): relaying the output with the probe writes the same lines as
relaying the output alone, and leaves the number as the exit code.
-/

namespace Fleet

/-! ## Reading the probe -/

namespace ExitStatus

/-- The marker is of visible ASCII characters. -/
theorem marker_visible : ∀ c ∈ marker.toList, 0x20 < c.toNat ∧ c.toNat < 0x80 := by
  intro c among
  have all : marker.toList.all (fun c => 0x20 < c.toNat ∧ c.toNat < 0x80) = true := by decide
  simpa using List.all_eq_true.mp all c among

theorem marker_plain : ∀ c ∈ marker.toList, Utf8.IsPlain c := fun c among =>
  (marker_visible c among).imp_left (Nat.lt_trans (by decide))

theorem chomp_eq {cs : List Char} (free : '\n' ∉ cs) : chomp cs = cs := by
  unfold chomp
  split
  · next last => exact absurd (List.mem_of_getLast? last) free
  · rfl

/-- Of a line with the marker, what is before it is shown. -/
theorem extract_marked {before : List Char} (free : ¬ marker.toList <:+: before)
    (inLine : '\n' ∉ before) (after : List Char) :
    extract (String.ofList (before ++ (marker.toList ++ after)))
      = (String.ofList before, Numeral.int32? (numberChars (dropBlanks after))) := by
  rw [extract_split String.toList_ofList free, chomp_eq inLine]

/-- The number after the marker is read to its end. -/
theorem int32?_numberChars {n : Nat} (small : n < Nat.pow 2 31) :
    Numeral.int32? (numberChars (dropBlanks (Nat.toDigits 10 n))) = some (Int32.ofInt n) := by
  have digits : (toString (n : Int)).toList = Nat.toDigits 10 n := by
    rw [Numeral.toList_toString_int, if_pos (Int.natCast_nonneg n)]
    rfl
  have dropped := @dropBlanks_toString [] (fun _ none => absurd none List.not_mem_nil) n []
  have kept := @numberChars_toString [] (fun _ none => by cases none) n
  rw [List.nil_append, List.append_nil, digits] at dropped
  rw [List.append_nil, digits] at kept
  rw [dropped, kept, Numeral.int32?_toDigits small]

/-- What a host says after its output where its exit status is wanted. -/
def probe (status : UInt8) : Bytes :=
  Utf8.encode (marker ++ toString status.toNat) ++ [newline]

/-- What stands before the newline of a probe is visible ASCII. -/
private theorem encode_probe (status : UInt8) :
    Utf8.encode (marker ++ toString status.toNat)
        = (marker.toList ++ Nat.toDigits 10 status.toNat).map Utf8.byte ∧
      ∀ c ∈ marker.toList ++ Nat.toDigits 10 status.toNat, 0x20 < c.toNat ∧ c.toNat < 0x80 := by
  have text : (marker ++ toString status.toNat).toList
      = marker.toList ++ Nat.toDigits 10 status.toNat := by
    rw [String.toList_append]
    exact congrArg _ String.toList_ofList
  have visible : ∀ c ∈ marker.toList ++ Nat.toDigits 10 status.toNat,
      0x20 < c.toNat ∧ c.toNat < 0x80 := by
    intro c among
    rcases List.mem_append.mp among with inMarker | inDigits
    · exact marker_visible c inMarker
    · have range := Numeral.range_of_isDigit (Numeral.isDigit_of_mem inDigits)
      omega
  refine ⟨?_, visible⟩
  rw [Utf8.encode_eq fun c among => (visible c (text ▸ among)).2, text]

end ExitStatus

/-- A code is noted while the host's life is not over. -/
theorem Record.exitCode_setExitCode {code : Int32} (record : Record)
    (running : record.phase.isTerminal = false) (noted : code ≠ Int32.minValue) :
    (record.setExitCode code).exitCode = some code := by
  rw [setExitCode, running, if_neg Bool.false_ne_true]
  exact if_neg noted

/-! ## Relaying with the probe and without -/

open ExitStatus

section Pieces

variable (label : Option String) (separateStderr : Bool) {lines : List Bytes} {tail line : Bytes}

/-- The last piece carries the probe, if there is one, and otherwise the probe is a piece. -/
theorem pieces_probe (free : ∀ line ∈ lines, newline ∉ line) (last : newline ∉ tail)
    (status : UInt8) :
    pieces (lines.flatMap (· ++ [newline]) ++ tail ++ probe status)
      = lines ++ [tail ++ Utf8.encode (marker ++ toString status.toNat)] := by
  obtain ⟨same, visible⟩ := encode_probe status
  have inLine : newline ∉ Utf8.encode (marker ++ toString status.toNat) := by
    rw [same]
    intro among
    obtain ⟨c, listed, here⟩ := List.mem_map.mp among
    have value := Utf8.toNat_byte (visible c listed).2
    rw [here] at value
    exact Nat.not_lt_of_le (Nat.le_of_eq value.symm)
      (Nat.lt_trans (by decide) (visible c listed).1)
  have whole : newline ∉ tail ++ Utf8.encode (marker ++ toString status.toNat) := by
    rw [List.mem_append]
    rintro (before | after)
    · exact last before
    · exact inLine after
  rw [List.append_assoc, pieces_lines free, probe, ← List.append_assoc, pieces_line whole]
  rfl

/-- No marker is read where none was said. -/
theorem marker_not_in_lossyChars (clean : ¬ Utf8.encode marker <:+: line) :
    ¬ marker.toList <:+: Utf8.lossyChars line := by
  intro inside
  have found := Utf8.infix_of_infix_lossyChars marker_plain inside
  rw [← Utf8.encode_eq fun c among => (marker_plain c among).2] at found
  exact clean found

/-- A line without a probe is read as if no status were wanted. -/
theorem read_unmarked (clean : ¬ Utf8.encode marker <:+: line) :
    Routing.read ⟨label, separateStderr, true⟩ line .out = (Utf8.lossy line, none) := by
  have unmarked : ¬ marker.toList <:+: (Utf8.lossy line).toList := by
    rw [Utf8.lossy, String.toList_ofList]
    exact marker_not_in_lossyChars clean
  exact extract_unmarked unmarked

/-- Of a line with the probe, what is before it is shown, and the status is known. -/
theorem read_probed (clean : ¬ Utf8.encode marker <:+: tail) (inLine : newline ∉ tail)
    (status : UInt8) :
    Routing.read ⟨label, separateStderr, true⟩
        (tail ++ Utf8.encode (marker ++ toString status.toNat)) .out
      = (Utf8.lossy tail, some (Int32.ofInt status.toNat)) := by
  obtain ⟨same, visible⟩ := encode_probe status
  have decoded : Utf8.lossyChars (tail ++ Utf8.encode (marker ++ toString status.toNat))
      = Utf8.lossyChars tail ++ (marker.toList ++ Nat.toDigits 10 status.toNat) := by
    rw [same, Utf8.lossyChars_append_word fun c among => (visible c among).2]
  have free : '\n' ∉ Utf8.lossyChars tail :=
    Utf8.not_mem_lossyChars (c := '\n') ⟨by decide, by decide⟩ inLine
  have small : status.toNat < Nat.pow 2 31 := Nat.lt_trans status.toNat_lt (by decide)
  have extracted := extract_marked (marker_not_in_lossyChars clean) free
    (Nat.toDigits 10 status.toNat)
  rw [← decoded, int32?_numberChars small] at extracted
  exact extracted

/-- A status between 0 and 255 is one that can be noted. -/
theorem ofInt_ne_minValue (status : UInt8) : Int32.ofInt status.toNat ≠ Int32.minValue := by
  have all : ∀ n < 256, Int32.ofInt (n : Nat) ≠ Int32.minValue := by decide +kernel
  exact all status.toNat status.toNat_lt

/-- **What is shown of the output is the same**, and the status is noted. -/
theorem shown_probe {out : Bytes} (clean : ¬ Utf8.encode marker <:+: out) (status : UInt8)
    (record : Record) :
    Routing.shown ⟨label, separateStderr, true⟩ .out (pieces (out ++ probe status))
        = Routing.shown ⟨label, separateStderr, false⟩ .out (pieces out) ∧
      (pieces (out ++ probe status)).foldl (Routing.note ⟨label, separateStderr, true⟩ .out) record
        = record.setExitCode (Int32.ofInt status.toNat) := by
  obtain ⟨lines, tail, free, last, rfl⟩ := exists_lines out
  have clean_tail : ¬ Utf8.encode marker <:+: tail := fun inside =>
    clean (inside.trans (List.suffix_append ..).isInfix)
  have clean_line : ∀ line ∈ lines, ¬ Utf8.encode marker <:+: line := by
    intro line among inside
    have part : line <:+: lines.flatMap (· ++ [newline]) := by
      obtain ⟨before, after, rfl⟩ := List.append_of_mem among
      rw [List.flatMap_append, List.flatMap_cons, List.append_assoc, ← List.append_assoc]
      exact List.infix_append ..
    exact clean (inside.trans (part.trans (List.prefix_append ..).isInfix))
  have probed := read_probed label separateStderr clean_tail last status
  have unmarked (line : Bytes) (among : line ∈ lines) :=
    read_unmarked label separateStderr (clean_line line among)
  have whole : Routing.shown ⟨label, separateStderr, true⟩ .out lines
      = Routing.shown ⟨label, separateStderr, false⟩ .out lines := by
    unfold Routing.shown
    rw [List.map_congr_left fun line among => congrArg Prod.fst (unmarked line among)]
    rfl
  have rest : Routing.shown ⟨label, separateStderr, true⟩ .out
        [tail ++ Utf8.encode (marker ++ toString status.toNat)]
      = Routing.shown ⟨label, separateStderr, false⟩ .out (pieces tail) := by
    unfold Routing.shown
    rw [List.map_singleton, probed]
    by_cases some : tail = []
    · have none : Utf8.lossy [] = "" := by
        rw [Utf8.lossy, Utf8.lossyChars]
      rw [some, none]
      rfl
    · rw [pieces_tail last some]
      rfl
  rw [pieces_probe free last, pieces_lines free, Routing.shown_append, Routing.shown_append, whole,
    rest, List.foldl_append,
    Routing.foldl_note _ fun line among => congrArg Prod.snd (unmarked line among)]
  refine ⟨rfl, ?_⟩
  show Routing.note _ _ record _ = _
  rw [Routing.note, probed]

end Pieces

namespace Relay

/-- Streams that carry bytes are relayed to their end. -/
private theorem run_ofSources (routing : Routing) (now : Time) {out : Source} {err : Option Source}
    {outBytes : Bytes} {errBytes : Option Bytes} (carries : out.Carries outBytes)
    (carries_err : Option.Rel Source.Carries err errBytes) {record : Record} {console : Console}
    (calm : record.aborted = false) (free : console.IsFree) {steps : Nat}
    (enough : (ofSources out err).work now < steps) :
    ∃ console' time,
      run routing none steps now record console (ofSources out err)
        = ((pieces outBytes).foldl (routing.note .out) record, console', time, some (.ok ())) ∧
      console'.lines = console.lines
        ++ (said routing none steps now record console (ofSources out err)).map Prod.snd ∧
      linesOf .out (said routing none steps now record console (ofSources out err))
        = routing.lines .out (pieces outBytes) ∧
      linesOf .err (said routing none steps now record console (ofSources out err))
        = routing.lines .err ((errBytes.map pieces).getD []) := by
  have ends (v : Stream) : ((ofSources out err).voice v).Ends := by
    cases v with
    | out => exact Voice.ends_of_carries carries
    | err =>
      cases carries_err with
      | none => exact ⟨rfl, rfl⟩
      | some carries => exact Voice.ends_of_carries carries
  obtain ⟨console', time, whole, lines, written⟩ := run_complete routing calm free ends enough
  have first : ((ofSources out err).voice .out).ahead = pieces outBytes := by
    rw [← carries.bytes]
    rfl
  have second : ((ofSources out err).voice .err).ahead = (errBytes.map pieces).getD [] := by
    cases carries_err with
    | none => rfl
    | some carries =>
      rw [← carries.bytes]
      rfl
  rw [first] at whole
  exact ⟨console', time, whole, lines, (written .out).trans (by rw [first]),
    (written .err).trans (by rw [second])⟩

/-- **The status probe is invisible.** The output of a host and the output followed by the probe may
arrive in whatever chunks and at whatever times. Relaying the first and, taking statuses off the
lines, the second, writes the same lines in the same order for either stream of the host; and after
the second the status is the exit code of the host. -/
theorem probe_invisible {out : Bytes} {err : Option Bytes}
    (clean : ¬ Utf8.encode marker <:+: out) (status : UInt8) (label : Option String)
    (separateStderr : Bool) {plain probed : Source} {plainErr probedErr : Option Source}
    (plain_out : plain.Carries out) (plain_err : Option.Rel Source.Carries plainErr err)
    (probed_out : probed.Carries (out ++ probe status))
    (probed_err : Option.Rel Source.Carries probedErr err) {record : Record}
    (calm : record.aborted = false) (running : record.phase.isTerminal = false)
    {console : Console} (free : console.IsFree) (now : Time) :
    ∃ bound, ∀ steps, bound < steps → ∃ record' console₁ console₂ time₁ time₂,
      run ⟨label, separateStderr, true⟩ none steps now record console (ofSources probed probedErr)
        = (record', console₁, time₁, some (.ok ())) ∧
      run ⟨label, separateStderr, false⟩ none steps now record console (ofSources plain plainErr)
        = (record, console₂, time₂, some (.ok ())) ∧
      console₁.lines = console.lines ++ (said ⟨label, separateStderr, true⟩ none steps now record
        console (ofSources probed probedErr)).map Prod.snd ∧
      console₂.lines = console.lines ++ (said ⟨label, separateStderr, false⟩ none steps now record
        console (ofSources plain plainErr)).map Prod.snd ∧
      (∀ v, linesOf v (said ⟨label, separateStderr, true⟩ none steps now record console
          (ofSources probed probedErr))
        = linesOf v (said ⟨label, separateStderr, false⟩ none steps now record console
          (ofSources plain plainErr))) ∧
      record'.exitCode = some (Int32.ofInt status.toNat) := by
  refine ⟨max ((ofSources probed probedErr).work now) ((ofSources plain plainErr).work now), ?_⟩
  intro steps enough
  obtain ⟨console₁, time₁, whole₁, lines₁, out₁, err₁⟩ :=
    run_ofSources ⟨label, separateStderr, true⟩ now probed_out probed_err calm free
      (Nat.lt_of_le_of_lt (Nat.le_max_left ..) enough)
  obtain ⟨console₂, time₂, whole₂, lines₂, out₂, err₂⟩ :=
    run_ofSources ⟨label, separateStderr, false⟩ now plain_out plain_err calm free
      (Nat.lt_of_le_of_lt (Nat.le_max_right ..) enough)
  obtain ⟨same, noted⟩ := shown_probe label separateStderr clean status record
  have silent : (pieces out).foldl (Routing.note ⟨label, separateStderr, false⟩ .out) record
      = record := Routing.foldl_note _ (fun _ _ => rfl) record
  rw [noted] at whole₁
  rw [silent] at whole₂
  refine ⟨_, console₁, console₂, time₁, time₂, whole₁, whole₂, lines₁, lines₂, ?_, ?_⟩
  · rintro (_ | _)
    · rw [out₁, out₂, Routing.lines, same]
      rfl
    · rw [err₁, err₂]
      rfl
  · exact record.exitCode_setExitCode running (ofInt_ne_minValue status)

/-- A line, and a part of another one that breaks off in the middle of a character. -/
def brokenOff : Bytes := [104, 105, 10, 226, 130]

/-- The record of a host that is executing. -/
def executing : Record where
  host := { hostname := "a" }
  localUser := "u"
  remoteUser := "u"
  kind := .exec
  nodeIndex := 0
  phase := .executing

/-- The probe follows such output directly and arrives in two parts. It leaves no trace but the
exit code. -/
theorem probe_invisible_brokenOff :
    ∃ probed plain : Source, probed.Carries (brokenOff ++ probe 3) ∧ plain.Carries brokenOff ∧
      ∃ steps record' console₁ console₂ time₁ time₂,
        run ⟨some "a", true, true⟩ none steps 0 executing {} (ofSources probed none)
          = (record', console₁, time₁, some (.ok ())) ∧
        run ⟨some "a", true, false⟩ none steps 0 executing {} (ofSources plain none)
          = (executing, console₂, time₂, some (.ok ())) ∧
        (∀ v, linesOf v (said ⟨some "a", true, true⟩ none steps 0 executing {}
            (ofSources probed none))
          = linesOf v (said ⟨some "a", true, false⟩ none steps 0 executing {}
            (ofSources plain none))) ∧
        record'.exitCode = some 3 := by
  have clean : ¬ Utf8.encode marker <:+: brokenOff := by decide
  have probed : Source.Carries
      ⟨[⟨0, brokenOff ++ (probe 3).take 5⟩, ⟨1, (probe 3).drop 5⟩], .closed 2⟩
      (brokenOff ++ probe 3) := ⟨rfl, 2, rfl⟩
  have plain : Source.Carries ⟨[⟨0, brokenOff⟩], .closed 0⟩ brokenOff := ⟨rfl, 0, rfl⟩
  have calm : executing.aborted = false := rfl
  have free : Console.IsFree {} := ⟨rfl, rfl⟩
  obtain ⟨bound, complete⟩ :=
    probe_invisible clean 3 (some "a") true plain .none probed .none calm rfl free 0
  obtain ⟨record', console₁, console₂, time₁, time₂, whole₁, whole₂, -, -, same, noted⟩ :=
    complete (bound + 1) (Nat.lt_succ_self bound)
  exact ⟨_, _, probed, plain, _, record', console₁, console₂, time₁, time₂, whole₁, whole₂, same,
    noted⟩

end Relay

end Fleet
