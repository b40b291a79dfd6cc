import Fleet.Proofs.Lines

/-!
# Reading, byte for byte

`LineReader.poll_polled` speaks of pieces, and a stream whose reading fails has no last piece. Here
the same attempts are told in bytes. What a reader has still to give is the part of a line that it
holds and the bytes to come (`LineReader.rest`); a line is taken off its front, at the first
newline, and nothing else happens to it.

**The law** (`LineReader.poll_reads`, `Reader.poll_fills`): what an attempt comes to is settled by
these bytes and by how the stream ends. When the bytes arrive decides only whether there is an
answer yet; and if there is none, there is something to wait for, or there never will be one.
-/

namespace Fleet

variable {held bs line : Bytes}

theorem splitLine_of_free (free : newline ∉ bs) : splitLine bs = none := by
  cases split : splitLine bs with
  | none => rfl
  | some found =>
    obtain ⟨line, rest⟩ := found
    obtain ⟨rfl, -⟩ := splitLine_eq_some split
    exact absurd (List.mem_append_right _ List.mem_cons_self) free

/-- Bytes without a newline belong to the first line. -/
theorem splitLine_append (free : newline ∉ held) (bs : Bytes) :
    splitLine (held ++ bs) = (splitLine bs).map fun (line, rest) => (held ++ line, rest) := by
  induction held with
  | nil =>
    cases found : splitLine bs with
    | none => exact found
    | some pair => exact found
  | cons b held ih =>
    have other : b ≠ newline := fun same => free (same ▸ List.mem_cons_self)
    rw [List.cons_append, splitLine, if_neg other,
      ih fun among => free (List.mem_cons_of_mem b among), Option.map_map]
    rfl

/-- The first line is what stands before the first newline. -/
theorem splitLine_line (free : newline ∉ line) (rest : Bytes) :
    splitLine (line ++ newline :: rest) = some (line, rest) := by
  have first : splitLine (newline :: rest) = some ([], rest) := if_pos rfl
  rw [splitLine_append free, first]
  exact congrArg (fun line => some (line, rest)) (List.append_nil line)

namespace Source

/-- When the time of the next event has come, fewer of them are to come. -/
theorem eventsAfter_nextTime {source : Source} {now time : Time}
    (next : source.nextTime = some time) (later : now < time) :
    source.eventsAfter time < source.eventsAfter now := by
  have first : source.nextAfter now = some time := by
    unfold nextAfter nextTime at *
    cases listed : source.chunks with
    | nil =>
      rw [listed] at next
      simp [next, later]
    | cons c chunks =>
      rw [listed] at next
      cases next
      simp [later]
  exact (nextAfter_eq_some first).2

end Source

namespace Reader

/-- What a reader waits for that has found nothing: something that is still to come, or nothing,
since all has come and the stream stays open. -/
inductive Awaits (now : Time) (reader : Reader) : Prop where
  | soon {time : Time} (next : reader.source.nextTime = some time) (later : now < time) :
      Awaits now reader
  | never (bytes : reader.bytes = []) (silent : reader.source.nextTime = none)
      (ending : reader.source.ending = .never) : Awaits now reader

/-- What an attempt to read a byte can come to. -/
inductive Filled (now : Time) (reader : Reader) : Fill × Reader → Prop where
  | data {byte : UInt8} {rest : Bytes} {next : Reader} (bytes : reader.bytes = byte :: next.bytes)
      (follows : LineReader.Follows { reader } { reader := next }) :
      Filled now reader (.data byte rest, next)
  | ended {time : Time} {next : Reader} (bytes : reader.bytes = [])
      (ending : reader.source.ending = .closed time) : Filled now reader (.ended, next)
  | failed {time : Time} {e : IoError} {next : Reader} (bytes : reader.bytes = [])
      (ending : reader.source.ending = .failure time e) : Filled now reader (.failed e, next)
  | pending {next : Reader} (bytes : next.bytes = reader.bytes)
      (follows : LineReader.Follows { reader } { reader := next })
      (awaits : next.Awaits now) : Filled now reader (.pending, next)

/-- Chunks that are there are taken until there is a byte. -/
private theorem take_fills {now : Time} {reader : Reader} (buffered : Bytes) (chunks : List Chunk)
    (later : chunks <:+ reader.source.chunks)
    (bytes : reader.bytes = buffered ++ chunks.flatMap Chunk.data) :
    Filled now reader (take now reader.source.ending buffered chunks) := by
  induction chunks generalizing buffered with
  | nil =>
    cases buffered with
    | cons b rest =>
      rw [take]
      exact .data bytes ⟨rfl, List.nil_suffix⟩
    | nil =>
      rw [take]
      unfold Ending.fill
      cases ends : reader.source.ending with
      | never => exact .pending bytes.symm ⟨ends.symm, List.nil_suffix⟩ (.never rfl rfl rfl)
      | closed time | failure time e =>
        by_cases due : time ≤ now
        · simp only [if_pos due]
          first | exact .ended bytes ends | exact .failed bytes ends
        · simp only [if_neg due]
          exact .pending bytes.symm ⟨ends.symm, List.nil_suffix⟩ (.soon rfl (Nat.lt_of_not_le due))
  | cons c chunks ih =>
    cases buffered with
    | cons b rest =>
      rw [take]
      exact .data bytes ⟨rfl, later⟩
    | nil =>
      rw [take]
      by_cases due : c.time ≤ now
      · rw [if_pos due]
        exact ih c.data ((List.suffix_cons c chunks).trans later) bytes
      · rw [if_neg due]
        exact .pending bytes.symm ⟨rfl, later⟩ (.soon rfl (Nat.lt_of_not_le due))

/-- **What an attempt to read a byte comes to**: the first byte to come, the end or the failure of a
stream that has no more, or nothing. -/
theorem poll_fills (reader : Reader) (now : Time) : Filled now reader (reader.poll now) :=
  take_fills reader.buffered reader.source.chunks List.suffix_rfl rfl

end Reader

namespace LineReader

/-- The bytes that a reader has still to give: those of the line that it holds a part of, and those
to come. -/
def rest (lines : LineReader) : Bytes := lines.held ++ lines.reader.bytes

/-- What a reader holds is the part of one line. -/
def IsSound (lines : LineReader) : Prop := newline ∉ lines.held

theorem isSound_ofSource (source : Source) : (ofSource source).IsSound := List.not_mem_nil

theorem rest_of_held {lines : LineReader} (none : lines.held = []) :
    lines.rest = lines.reader.bytes := by
  rw [rest, none, List.nil_append]

/-- What an attempt to read a line can come to, told in bytes. -/
inductive Reads (now : Time) (lines : LineReader) : LineRead × LineReader → Prop where
  | line {bytes : Bytes} {next : LineReader}
      (split : splitLine lines.rest = some (bytes, next.reader.bytes)) (held : next.held = [])
      (follows : lines.Follows next) : Reads now lines (.line bytes, next)
  | tail {time : Time} {next : LineReader} (free : newline ∉ lines.rest) (some : lines.rest ≠ [])
      (ending : lines.reader.source.ending = .closed time) (rest : next.reader.bytes = [])
      (held : next.held = []) (follows : lines.Follows next) :
      Reads now lines (.tail lines.rest, next)
  | ended {time : Time} {next : LineReader} (none : lines.rest = [])
      (ending : lines.reader.source.ending = .closed time) (rest : next.reader.bytes = [])
      (held : next.held = []) (follows : lines.Follows next) : Reads now lines (.ended, next)
  | failed {time : Time} {e : IoError} {next : LineReader} (free : newline ∉ lines.rest)
      (ending : lines.reader.source.ending = .failure time e) : Reads now lines (.failed e, next)
  | pending {next : LineReader} (rest : next.rest = lines.rest) (sound : next.IsSound)
      (follows : lines.Follows next) (awaits : next.reader.Awaits now) :
      Reads now lines (.pending, next)

/-- At the end of a stream no newline is to come. -/
private theorem finish_reads {now : Time} {held : Bytes} {lines : LineReader}
    (sound : newline ∉ held) (rest : lines.rest = held) :
    Reads now lines (finish now held lines.reader.source.ending) := by
  have kept : LineReader.rest ⟨held, ⟨[], ⟨[], lines.reader.source.ending⟩⟩⟩ = lines.rest := by
    rw [rest, LineReader.rest]
    exact List.append_nil held
  unfold finish Ending.fill
  cases ends : lines.reader.source.ending with
  | never =>
    rw [ends] at kept
    exact .pending kept sound ⟨ends.symm, List.nil_suffix⟩ (.never rfl rfl rfl)
  | closed time =>
    by_cases due : time ≤ now
    · simp only [if_pos due]
      subst rest
      by_cases none : lines.rest = []
      · rw [if_pos none]
        exact .ended none ends rfl rfl ⟨ends.symm, List.nil_suffix⟩
      · rw [if_neg none]
        exact .tail sound none ends rfl rfl ⟨ends.symm, List.nil_suffix⟩
    · simp only [if_neg due]
      rw [ends] at kept
      exact .pending kept sound ⟨ends.symm, List.nil_suffix⟩ (.soon rfl (Nat.lt_of_not_le due))
  | failure time e =>
    by_cases due : time ≤ now
    · simp only [if_pos due]
      exact .failed (rest ▸ sound) ends
    · simp only [if_neg due]
      rw [ends] at kept
      exact .pending kept sound ⟨ends.symm, List.nil_suffix⟩ (.soon rfl (Nat.lt_of_not_le due))

private theorem longer (sound : newline ∉ held) {buffered : Bytes}
    (none : splitLine buffered = none) : newline ∉ held ++ buffered := by
  rw [List.mem_append]
  rintro (before | here)
  · exact sound before
  · exact splitLine_eq_none none here

/-- A newline among the buffered bytes ends the line that is held. -/
private theorem split_rest {lines : LineReader} (sound : newline ∉ held)
    {buffered later line after : Bytes} (rest : lines.rest = held ++ (buffered ++ later))
    (split : splitLine buffered = some (line, after)) :
    splitLine lines.rest = some (held ++ line, after ++ later) := by
  obtain ⟨rfl, free⟩ := splitLine_eq_some split
  rw [rest, splitLine_append sound, List.append_assoc, List.cons_append, splitLine_line free,
    Option.map_some]

private theorem scan_reads {now : Time} {lines : LineReader} (held buffered : Bytes)
    (chunks : List Chunk) (sound : newline ∉ held) (later : chunks <:+ lines.reader.source.chunks)
    (rest : lines.rest = held ++ (buffered ++ chunks.flatMap Chunk.data)) :
    Reads now lines (scan now lines.reader.source.ending held buffered chunks) := by
  induction chunks generalizing held buffered with
  | nil =>
    unfold scan
    cases split : splitLine buffered with
    | some pair => exact .line (split_rest sound rest split) rfl ⟨rfl, List.nil_suffix⟩
    | none =>
      rw [List.flatMap_nil, List.append_nil] at rest
      exact finish_reads (longer sound split) rest
  | cons chunk chunks ih =>
    unfold scan
    cases split : splitLine buffered with
    | some pair => exact .line (split_rest sound rest split) rfl ⟨rfl, later⟩
    | none =>
      rw [← List.append_assoc] at rest
      by_cases due : chunk.time ≤ now
      · simp only [if_pos due]
        exact ih (held ++ buffered) chunk.data (longer sound split)
          ((List.suffix_cons chunk chunks).trans later) rest
      · simp only [if_neg due]
        exact .pending rest.symm (longer sound split) ⟨rfl, later⟩
          (.soon rfl (Nat.lt_of_not_le due))

/-- **What an attempt to read a line comes to**: the line up to the first newline to come, at the
end of the stream what is left of it, or nothing. -/
theorem poll_reads {lines : LineReader} (sound : lines.IsSound) (now : Time) :
    Reads now lines (lines.poll now) :=
  scan_reads lines.held lines.reader.buffered lines.reader.source.chunks sound List.suffix_rfl rfl

end LineReader

end Fleet
