import Fleet.LineReader

/-!
# Lines, however they arrive

The lines of a stream are the `pieces` of its bytes. A `LineReader` gets them out one by one, and
it does not matter in which chunks the bytes arrive, nor how often it is asked in vain: the pieces
that it has still to give (`LineReader.ahead`) are those of the part that it holds and of all the
bytes to come.

**The law** (`LineReader.poll_polled`): an attempt to read takes the first of these pieces, or none.
It fails only if the stream does, it says that the stream is over only if no piece is left, and it
finds nothing only if there is something to wait for.
-/

namespace Fleet

variable {held bs line rest : Bytes}

/-! ## Pieces -/

theorem splitLine_eq_some (split : splitLine bs = some (line, rest)) :
    bs = line ++ newline :: rest ∧ newline ∉ line := by
  induction bs generalizing line with
  | nil => cases split
  | cons b bs ih =>
    unfold splitLine at split
    split at split
    · next same =>
      cases split
      rw [same]
      exact ⟨rfl, List.not_mem_nil⟩
    · next other =>
      obtain ⟨⟨line', rest'⟩, found, same⟩ := Option.map_eq_some_iff.mp split
      cases same
      obtain ⟨whole, free⟩ := ih found
      rw [whole]
      refine ⟨rfl, fun among => ?_⟩
      rcases List.mem_cons.mp among with here | later
      · exact other here.symm
      · exact free later

theorem splitLine_eq_none (split : splitLine bs = none) : newline ∉ bs := by
  induction bs with
  | nil => exact List.not_mem_nil
  | cons b bs ih =>
    unfold splitLine at split
    split at split
    · cases split
    · next other =>
      intro among
      rcases List.mem_cons.mp among with here | later
      · exact other here.symm
      · exact ih (Option.map_eq_none_iff.mp split) later

/-- Bytes without a newline are held. -/
theorem piecesFrom_append (free : newline ∉ line) (held rest : Bytes) :
    piecesFrom held (line ++ rest) = piecesFrom (held ++ line) rest := by
  induction line generalizing held with
  | nil => rw [List.nil_append, List.append_nil]
  | cons b line ih =>
    have other : b ≠ newline := fun same => free (same ▸ List.mem_cons_self)
    rw [List.cons_append, piecesFrom, if_neg other,
      ih (fun among => free (List.mem_cons_of_mem b among)), List.append_assoc]
    rfl

/-- A newline ends the piece that is held. -/
theorem piecesFrom_newline (held rest : Bytes) :
    piecesFrom held (newline :: rest) = held :: pieces rest := if_pos rfl

/-- **The first piece is what stands before the first newline.** -/
theorem pieces_line (free : newline ∉ line) (rest : Bytes) :
    pieces (line ++ newline :: rest) = line :: pieces rest := by
  rw [pieces, piecesFrom_append free, piecesFrom_newline, List.nil_append]

/-- The last piece may lack its newline. -/
theorem pieces_tail (free : newline ∉ line) (some : line ≠ []) : pieces line = [line] := by
  have whole := piecesFrom_append free [] []
  rw [List.append_nil, List.nil_append] at whole
  rw [pieces, whole, piecesFrom, if_neg some]

theorem newline_not_mem_piecesFrom (free : newline ∉ held) :
    ∀ piece ∈ piecesFrom held bs, newline ∉ piece := by
  induction bs generalizing held with
  | nil =>
    intro piece among
    unfold piecesFrom at among
    split at among
    · exact absurd among List.not_mem_nil
    · rw [List.mem_singleton.mp among]
      exact free
  | cons b bs ih =>
    intro piece among
    unfold piecesFrom at among
    split at among
    · rcases List.mem_cons.mp among with rfl | later
      · exact free
      · exact ih List.not_mem_nil piece later
    · next other =>
      refine ih ?_ piece among
      rw [List.mem_append, List.mem_singleton]
      rintro (before | last)
      · exact free before
      · exact other last.symm

/-- A byte string is lines that end with a newline, and a rest without one. -/
theorem exists_lines (bs : Bytes) :
    ∃ (lines : List Bytes) (tail : Bytes), (∀ line ∈ lines, newline ∉ line) ∧ newline ∉ tail ∧
      bs = lines.flatMap (· ++ [newline]) ++ tail := by
  induction bs with
  | nil => exact ⟨[], [], fun _ among => absurd among List.not_mem_nil, List.not_mem_nil, rfl⟩
  | cons b bs ih =>
    obtain ⟨lines, tail, free, last, rfl⟩ := ih
    by_cases ends : b = newline
    · refine ⟨[] :: lines, tail, ?_, last, by rw [ends]; rfl⟩
      intro line among
      rcases List.mem_cons.mp among with rfl | later
      · exact List.not_mem_nil
      · exact free line later
    · -- the byte belongs to the first line, or to the rest if there is none
      have extend {line : Bytes} (free : newline ∉ line) : newline ∉ b :: line := by
        rw [List.mem_cons]
        rintro (here | later)
        · exact ends here.symm
        · exact free later
      cases lines with
      | nil => exact ⟨[], b :: tail, free, extend last, rfl⟩
      | cons line lines =>
        refine ⟨(b :: line) :: lines, tail, ?_, last, rfl⟩
        intro other among
        rcases List.mem_cons.mp among with rfl | later
        · exact extend (free line List.mem_cons_self)
        · exact free other (List.mem_cons_of_mem line later)

/-- The pieces of lines and of what follows them. -/
theorem pieces_lines {lines : List Bytes} (free : ∀ line ∈ lines, newline ∉ line) (rest : Bytes) :
    pieces (lines.flatMap (· ++ [newline]) ++ rest) = lines ++ pieces rest := by
  induction lines with
  | nil => rfl
  | cons line lines ih =>
    rw [List.flatMap_cons, List.append_assoc, List.append_assoc, List.singleton_append,
      pieces_line (free line List.mem_cons_self),
      ih fun other among => free other (List.mem_cons_of_mem line among), List.cons_append]

/-! ## Streams -/

namespace Source

/-- Starting a stream changes when its bytes arrive, and not which they are. -/
theorem start_bytes (source : Source) (origin : Time) :
    (source.start origin).bytes = source.bytes := by
  have kept (earliest : Time) (chunks : List Chunk) :
      (startChunks origin earliest chunks).1.flatMap Chunk.data = chunks.flatMap Chunk.data := by
    induction chunks generalizing earliest with
    | nil => rfl
    | cons chunk chunks ih =>
      rw [startChunks, List.flatMap_cons, List.flatMap_cons, ih]
  have dropped (chunks : List Chunk) : (chunks.filter fun chunk => chunk.data ≠ []).flatMap
      Chunk.data = chunks.flatMap Chunk.data := by
    induction chunks with
    | nil => rfl
    | cons chunk chunks ih =>
      by_cases blank : chunk.data = []
      · rw [List.filter_cons_of_neg (by simp [blank]), List.flatMap_cons, blank, ih]
        rfl
      · rw [List.filter_cons_of_pos (by simp [blank]), List.flatMap_cons, List.flatMap_cons, ih]
  exact (kept origin _).trans (dropped source.chunks)

/-- Whether reading the stream fails in the end. -/
def fails (source : Source) : Bool :=
  match source.ending with
  | .failure .. => true
  | _ => false

theorem start_fails (source : Source) (origin : Time) :
    (source.start origin).fails = source.fails := by
  unfold fails start
  cases source.ending <;> rfl

/-- The bytes arrive, in whatever chunks and whenever, and then the stream ends. -/
structure Carries (source : Source) (bs : Bytes) : Prop where
  bytes : source.bytes = bs
  ends : ∃ time, source.ending = .closed time

theorem Carries.fails {source : Source} {bs : Bytes} (carries : source.Carries bs) :
    source.fails = false := by
  obtain ⟨time, ends⟩ := carries.ends
  rw [Source.fails, ends]

/-- How often something happens on the stream after a moment. -/
def eventsAfter (source : Source) (now : Time) : Nat :=
  (source.chunks.map Chunk.time ++ source.ending.time?.toList).countP (now < ·)

theorem eventsAfter_le (source : Source) {now later : Time} (passed : now ≤ later) :
    source.eventsAfter later ≤ source.eventsAfter now := by
  refine List.countP_mono_left fun time _ after => ?_
  rw [decide_eq_true_eq] at after ⊢
  exact Nat.lt_of_le_of_lt passed after

/-- Waiting for the next event leaves fewer of them. -/
theorem nextAfter_eq_some {source : Source} {now time : Time}
    (next : source.nextAfter now = some time) :
    now < time ∧ source.eventsAfter time < source.eventsAfter now := by
  unfold nextAfter at next
  unfold eventsAfter
  generalize source.chunks.map Chunk.time ++ source.ending.time?.toList = times at next ⊢
  have soon : now < time := by simpa using List.find?_some next
  obtain ⟨earlier, later, rfl⟩ := List.append_of_mem (List.mem_of_find?_eq_some next)
  refine ⟨soon, ?_⟩
  have fewer (times : List Time) : times.countP (time < ·) ≤ times.countP (now < ·) := by
    refine List.countP_mono_left fun other _ after => ?_
    rw [decide_eq_true_eq] at after ⊢
    exact Nat.lt_trans soon after
  -- the event itself is to come at first, and not when it has happened
  have counted : (time :: later).countP (now < ·) = later.countP (now < ·) + 1 :=
    List.countP_cons_of_pos (by simpa using soon)
  have passed : (time :: later).countP (time < ·) = later.countP (time < ·) :=
    List.countP_cons_of_neg (by simp)
  rw [List.countP_append, List.countP_append, counted, passed]
  exact Nat.add_lt_add_of_le_of_lt (fewer earlier) (Nat.lt_succ_of_le (fewer later))

theorem exists_nextAfter {source : Source} {now : Time} (some : 0 < source.eventsAfter now) :
    ∃ time, source.nextAfter now = .some time := by
  obtain ⟨time, among, after⟩ := List.countP_pos_iff.mp some
  exact Option.isSome_iff_exists.mp (List.find?_isSome.mpr ⟨time, among, after⟩)

end Source

/-! ## Reading -/

namespace LineReader

/-- The pieces that the reader has still to give. -/
def ahead (lines : LineReader) : List Bytes := piecesFrom lines.held lines.reader.bytes

/-- Where a reader stands after an attempt to read: further on in the same stream. -/
structure Follows (lines next : LineReader) : Prop where
  ending : next.reader.source.ending = lines.reader.source.ending
  chunks : next.reader.source.chunks <:+ lines.reader.source.chunks

theorem Follows.trans {lines next last : LineReader} (first : lines.Follows next)
    (second : next.Follows last) : lines.Follows last :=
  ⟨second.ending.trans first.ending, second.chunks.trans first.chunks⟩

theorem Follows.eventsAfter {lines next : LineReader} (follows : lines.Follows next)
    (now : Time) :
    next.reader.source.eventsAfter now ≤ lines.reader.source.eventsAfter now := by
  unfold Source.eventsAfter
  rw [follows.ending, List.countP_append, List.countP_append]
  exact Nat.add_le_add_right (List.Sublist.countP_le (follows.chunks.map Chunk.time).sublist) _

/-- What an attempt to read can come to. -/
inductive Polled (now : Time) (lines : LineReader) : LineRead × LineReader → Prop where
  | line {bytes : Bytes} {next : LineReader} (follows : lines.Follows next)
      (ahead : lines.ahead = bytes :: next.ahead) : Polled now lines (.line bytes, next)
  | tail {bytes : Bytes} {next : LineReader} (follows : lines.Follows next)
      (ahead : lines.ahead = bytes :: next.ahead) : Polled now lines (.tail bytes, next)
  | ended {next : LineReader} (ahead : lines.ahead = []) : Polled now lines (.ended, next)
  | failed {e : IoError} {next : LineReader} (fails : lines.reader.source.fails = true) :
      Polled now lines (.failed e, next)
  | pending {next : LineReader} (follows : lines.Follows next) (ahead : next.ahead = lines.ahead)
      (soon : lines.reader.source.ending = .never ∨ 0 < next.reader.source.eventsAfter now) :
      Polled now lines (.pending, next)

/-- At the end of a stream the part that is held is the last piece, unless it is empty. -/
private theorem finish_polled {now : Time} {held : Bytes} {lines : LineReader}
    (ahead : lines.ahead = piecesFrom held []) :
    Polled now lines (finish now held lines.reader.source.ending) := by
  unfold piecesFrom at ahead
  unfold finish Ending.fill
  cases ends : lines.reader.source.ending with
  | never => exact .pending ⟨ends.symm, List.nil_suffix⟩ ahead.symm (.inl ends)
  | closed time =>
    by_cases due : time ≤ now
    · simp only [if_pos due]
      by_cases none : held = []
      · rw [if_pos none] at ahead ⊢
        exact .ended ahead
      · rw [if_neg none] at ahead ⊢
        exact .tail ⟨ends.symm, List.nil_suffix⟩ ahead
    · simp only [if_neg due]
      refine .pending ⟨ends.symm, List.nil_suffix⟩ ahead.symm (.inr ?_)
      simp [Source.eventsAfter, Ending.time?, Nat.lt_of_not_le due]
  | failure time e =>
    by_cases due : time ≤ now
    · simp only [if_pos due]
      exact .failed (by rw [Source.fails, ends])
    · simp only [if_neg due]
      refine .pending ⟨ends.symm, List.nil_suffix⟩ ahead.symm (.inr ?_)
      simp [Source.eventsAfter, Ending.time?, Nat.lt_of_not_le due]

/-- What is held and what is buffered, in front of the chunks to come. -/
private theorem scan_polled {now : Time} {lines : LineReader} (held buffered : Bytes)
    (chunks : List Chunk) (later : chunks <:+ lines.reader.source.chunks)
    (ahead : lines.ahead = piecesFrom held (buffered ++ chunks.flatMap Chunk.data)) :
    Polled now lines (scan now lines.reader.source.ending held buffered chunks) := by
  induction chunks generalizing held buffered with
  | nil =>
    unfold scan
    rw [List.flatMap_nil, List.append_nil] at ahead
    cases split : splitLine buffered with
    | some found =>
      obtain ⟨line, rest⟩ := found
      obtain ⟨rfl, free⟩ := splitLine_eq_some split
      refine .line ⟨rfl, List.nil_suffix⟩ ?_
      rw [ahead, piecesFrom_append free, piecesFrom_newline, pieces]
      exact congrArg (_ :: piecesFrom [] ·) (List.append_nil rest).symm
    | none =>
      refine finish_polled ?_
      have whole := piecesFrom_append (splitLine_eq_none split) held []
      rw [List.append_nil] at whole
      exact ahead.trans whole
  | cons chunk chunks ih =>
    unfold scan
    cases split : splitLine buffered with
    | some found =>
      obtain ⟨line, rest⟩ := found
      obtain ⟨rfl, free⟩ := splitLine_eq_some split
      refine .line ⟨rfl, later⟩ ?_
      rw [ahead, List.append_assoc, piecesFrom_append free, List.cons_append, piecesFrom_newline]
      rfl
    | none =>
      rw [piecesFrom_append (splitLine_eq_none split)] at ahead
      by_cases due : chunk.time ≤ now
      · simp only [if_pos due]
        refine ih (held ++ buffered) chunk.data ((List.suffix_cons chunk chunks).trans later) ?_
        rw [ahead, List.flatMap_cons]
      · simp only [if_neg due]
        refine .pending ⟨rfl, later⟩ ahead.symm (.inr ?_)
        simp [Source.eventsAfter, Nat.lt_of_not_le due]

/-- **What an attempt to read comes to**: the next of the pieces still to come, the end of the
stream if there is none, its failure if it fails, or nothing, if there is something to wait for. -/
theorem poll_polled (lines : LineReader) (now : Time) : Polled now lines (lines.poll now) :=
  scan_polled lines.held lines.reader.buffered lines.reader.source.chunks List.suffix_rfl rfl

end LineReader

end Fleet
