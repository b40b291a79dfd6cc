import Fleet.Proofs.Reading

/-!
# Chunks and calls in vain

A line reader is asked again and again, and where no whole line is there yet the call is given up
and made anew later on. Neither the chunks in which the bytes arrive nor the calls that are given
up can be told from what it answers.

**The law** (`LineReader.answers_pieces`): on a stream that ends, the answers are the `pieces` of its
bytes, one by one, and from then on that there is no line left. What was asked in vain could as well
not have been asked (`LineReader.poll_again`), and once all has arrived nothing is asked in vain.
The pieces are what `List.splitOn` makes of the bytes, except for an empty last one
(`exists_splitOn_pieces`), so that joined by newlines they give the bytes back, up to a newline at
the end (`intercalate_pieces`).
-/

namespace Fleet

/-! ## Pieces and separators -/

theorem pieces_of_free {tail : Bytes} (free : newline ∉ tail) :
    pieces tail = if tail = [] then [] else [tail] := by
  split
  · next none => rw [none]; rfl
  · next some => exact pieces_tail free some

/-- Lines and the rest after the last newline are what newlines separate. -/
private theorem splitOn_lines {lines : List Bytes} {tail : Bytes}
    (free : ∀ line ∈ lines, newline ∉ line) (last : newline ∉ tail) :
    (lines.flatMap (· ++ [newline]) ++ tail).splitOn newline = lines ++ [tail] := by
  induction lines with
  | nil => exact List.splitOn_eq_singleton last
  | cons line lines ih =>
    rw [List.flatMap_cons, List.append_assoc, List.append_assoc, List.singleton_append,
      List.splitOn_append_cons_self_of_not_mem (free line List.mem_cons_self),
      ih fun other among => free other (List.mem_cons_of_mem line among), List.cons_append]

/-- **The pieces are what stands between newlines**, but an empty rest after the last newline is
none. -/
theorem exists_splitOn_pieces (bs : Bytes) :
    ∃ (lines : List Bytes) (tail : Bytes), bs.splitOn newline = lines ++ [tail] ∧
      pieces bs = lines ++ if tail = [] then [] else [tail] := by
  obtain ⟨lines, tail, free, last, rfl⟩ := exists_lines bs
  exact ⟨lines, tail, splitOn_lines free last, by rw [pieces_lines free, pieces_of_free last]⟩

private theorem intercalate_lines {lines : List Bytes} {tail : Bytes}
    (free : ∀ line ∈ lines, newline ∉ line) (last : newline ∉ tail) :
    [newline].intercalate (lines ++ [tail]) = lines.flatMap (· ++ [newline]) ++ tail := by
  rw [← splitOn_lines free last, List.intercalate_splitOn]

/-- **Joined by newlines, the pieces give the bytes back**, but for a newline at the end. -/
theorem intercalate_pieces (bs : Bytes) :
    bs = [newline].intercalate (pieces bs) ++
      if bs.getLast? = some newline then [newline] else [] := by
  obtain ⟨lines, tail, free, last, whole⟩ := exists_lines bs
  have parts : pieces bs = lines ++ pieces tail := by rw [whole, pieces_lines free]
  rcases List.eq_nil_or_concat tail with rfl | ⟨front, b, rfl⟩
  · rcases List.eq_nil_or_concat lines with rfl | ⟨before, line, rfl⟩
    · rw [whole]; rfl
    · rw [List.concat_eq_append] at free whole parts
      -- the newline of the last line is the one at the end
      have shape : bs = before.flatMap (· ++ [newline]) ++ line ++ [newline] := by
        rw [whole, List.flatMap_append, List.flatMap_singleton, List.append_nil, List.append_assoc]
      have earlier (other : Bytes) (among : other ∈ before) : newline ∉ other :=
        free other (List.mem_append_left [line] among)
      have unbroken : newline ∉ line := free line (List.mem_append_right before List.mem_cons_self)
      have ends : bs.getLast? = some newline := by rw [shape, List.getLast?_concat]
      rw [if_pos ends, parts, pieces_of_free last, if_pos rfl, List.append_nil,
        intercalate_lines earlier unbroken, shape]
  · rw [List.concat_eq_append] at last whole parts
    have ends : bs.getLast? ≠ some newline := by
      rw [whole, ← List.append_assoc, List.getLast?_concat]
      intro same
      cases same
      exact last (List.mem_append_right front List.mem_cons_self)
    rw [if_neg ends, parts, pieces_tail last (List.concat_ne_nil b front),
      intercalate_lines free last, List.append_nil, whole]

/-! ## Answers -/

/-- What a call says to its caller, if it is not given up: a line, that none is left, or that reading
failed. -/
def LineRead.answer? : LineRead → Option (Except IoError (Option Bytes))
  | .line bytes | .tail bytes => some (.ok (some bytes))
  | .ended => some (.ok none)
  | .failed e => some (.error e)
  | .pending => none

/-- Nothing happens on a stream any more once its chunks and its end have come. -/
theorem Source.eventsAfter_closed {chunks : List Chunk} {ended now : Time}
    (all : ended ≤ now ∧ ∀ chunk ∈ chunks, chunk.time ≤ now) :
    (Source.mk chunks (.closed ended)).eventsAfter now = 0 := by
  refine List.countP_eq_zero.mpr fun time among later => ?_
  have passed : time ≤ now := by
    rcases List.mem_append.mp among with here | last
    · obtain ⟨chunk, known, rfl⟩ := List.mem_map.mp here
      exact all.2 chunk known
    · cases List.mem_singleton.mp last
      exact all.1
  exact Nat.not_lt_of_le passed (of_decide_eq_true later)

namespace LineReader

/-- The answers of the calls that are made one after the other at the given moments. A call without
an answer is given up. -/
def answers (lines : LineReader) : List Time → List (Except IoError (Option Bytes))
  | [] => []
  | now :: moments =>
    let (read, next) := lines.poll now
    read.answer?.toList ++ next.answers moments

/-- What a call on a stream that ends comes to: the first of the pieces to come, or that there is
none, or no answer, and then nothing has changed and something is still to arrive. -/
inductive Answered (now : Time) (lines : LineReader) : LineRead × LineReader → Prop where
  | said {read : LineRead} {next : LineReader}
      (answer : read.answer? = some (.ok (pieces lines.rest).head?))
      (rest : pieces next.rest = (pieces lines.rest).tail) (sound : next.IsSound)
      (follows : lines.Follows next) : Answered now lines (read, next)
  | silent {next : LineReader} (rest : next.rest = lines.rest) (sound : next.IsSound)
      (follows : lines.Follows next) (soon : 0 < lines.reader.source.eventsAfter now) :
      Answered now lines (.pending, next)

theorem poll_answered {lines : LineReader} {ended : Time} (sound : lines.IsSound)
    (ends : lines.reader.source.ending = .closed ended) (now : Time) :
    Answered now lines (lines.poll now) := by
  have free {next : LineReader} (held : next.held = []) : next.IsSound := by
    rw [IsSound, held]
    exact List.not_mem_nil
  generalize polled : lines.poll now = result
  cases polled ▸ poll_reads sound now with
  | line split held follows =>
    obtain ⟨whole, unbroken⟩ := splitLine_eq_some split
    have parts := whole ▸ pieces_line unbroken _
    refine .said ?_ ?_ (free held) follows
    · rw [parts]; rfl
    · rw [parts, rest_of_held held]; rfl
  | tail unbroken some _ none held follows =>
    have parts := pieces_tail unbroken some
    refine .said ?_ ?_ (free held) follows
    · rw [parts]; rfl
    · rw [parts, rest_of_held held, none]; rfl
  | ended none _ nothing held follows =>
    refine .said ?_ ?_ (free held) follows
    · rw [none]; rfl
    · rw [none, rest_of_held held, nothing]; rfl
  | failed _ fails => rw [ends] at fails; cases fails
  | pending rest kept follows awaits =>
    refine .silent rest kept follows ?_
    cases awaits with
    | soon next later =>
      exact Nat.lt_of_lt_of_le (Nat.zero_lt_of_lt (Source.eventsAfter_nextTime next later))
        (follows.eventsAfter now)
    | never _ _ ending =>
      rw [follows.ending, ends] at ending
      cases ending

/-- The answers are the pieces that are still to come, and then that there is none. -/
theorem answers_eq {lines : LineReader} {ended : Time} (sound : lines.IsSound)
    (ends : lines.reader.source.ending = .closed ended) (moments : List Time) (k : Nat)
    {answer : Except IoError (Option Bytes)} (said : (lines.answers moments)[k]? = some answer) :
    answer = .ok (pieces lines.rest)[k]? := by
  induction moments generalizing lines k with
  | nil => cases said
  | cons now moments ih =>
    unfold answers at said
    generalize polled : lines.poll now = result at said
    cases polled ▸ poll_answered sound ends now with
    | said first rest kept follows =>
      simp only [first, Option.toList_some, List.singleton_append] at said
      cases k with
      | zero =>
        cases said
        rw [List.head?_eq_getElem?]
      | succ k =>
        rw [ih kept (follows.ending.trans ends) k said, rest, List.getElem?_tail]
    | silent rest kept follows _ =>
      rw [← rest]
      exact ih kept (follows.ending.trans ends) k said

/-- A call that is made when all has arrived is answered. -/
theorem le_answers_length {lines : LineReader} {ended : Time} (sound : lines.IsSound)
    (ends : lines.reader.source.ending = .closed ended) (moments : List Time) :
    moments.countP (lines.reader.source.eventsAfter · = 0) ≤ (lines.answers moments).length := by
  induction moments generalizing lines with
  | nil => exact Nat.zero_le _
  | cons now moments ih =>
    unfold answers
    generalize polled : lines.poll now = result
    have later {next : LineReader} (kept : next.IsSound) (follows : lines.Follows next) :
        moments.countP (lines.reader.source.eventsAfter · = 0) ≤ (next.answers moments).length := by
      refine Nat.le_trans (List.countP_mono_left fun now _ all => ?_)
        (ih kept (follows.ending.trans ends))
      rw [decide_eq_true_eq] at all ⊢
      exact Nat.le_zero.mp (all ▸ follows.eventsAfter now)
    cases polled ▸ poll_answered sound ends now with
    | said first _ kept follows =>
      simp only [first, Option.toList_some, List.singleton_append, List.length_cons]
      rw [List.countP_cons]
      have rest := later kept follows
      split <;> omega
    | silent _ kept follows soon =>
      rw [List.countP_cons_of_neg (by simpa using Nat.ne_of_gt soon)]
      exact later kept follows

/-! ## Calls in vain -/

private theorem finish_vain {now : Time} {held : Bytes} {ending : Ending}
    (vain : (finish now held ending).1 = .pending) :
    (finish now held ending).2 = ⟨held, ⟨[], ⟨[], ending⟩⟩⟩ := by
  unfold finish at vain ⊢
  split at vain
  · split at vain <;> cases vain
  · cases vain
  · rfl

/-- What a call without an answer leaves behind is read on from there as from the start. -/
private theorem scan_again {now later : Time} (passed : now ≤ later) (ending : Ending)
    (held buffered : Bytes) (chunks : List Chunk)
    (vain : (scan now ending held buffered chunks).1 = .pending) :
    (scan now ending held buffered chunks).2.poll later =
      scan later ending held buffered chunks := by
  induction chunks generalizing held buffered with
  | nil =>
    unfold scan at vain ⊢
    cases split : splitLine buffered with
    | some found => rw [split] at vain; cases vain
    | none =>
      simp only [split] at vain ⊢
      rw [finish_vain vain, poll, scan, splitLine, List.append_nil]
  | cons chunk chunks ih =>
    unfold scan at vain ⊢
    cases split : splitLine buffered with
    | some found => rw [split] at vain; cases vain
    | none =>
      simp only [split] at vain ⊢
      by_cases due : chunk.time ≤ now
      · simp only [if_pos due, if_pos (Nat.le_trans due passed)] at vain ⊢
        exact ih _ _ vain
      · simp only [if_neg due] at vain ⊢
        rw [poll, scan, splitLine, List.append_nil]

/-- **A call in vain could as well not have been made.** -/
theorem poll_again {lines : LineReader} {now later : Time} (passed : now ≤ later)
    (vain : (lines.poll now).1 = .pending) : (lines.poll now).2.poll later = lines.poll later :=
  scan_again passed _ _ _ _ vain

/-! ## The law -/

/-- **Lines do not depend on chunks or on calls that are given up.** Whatever the chunks and the
moments of the calls: the answers are the pieces of the bytes in their order and then, for ever,
that there is none; a call is answered once all has arrived; a call in vain leaves the reader such
that every later call comes to the same as without it. The pieces are what newlines separate, an
empty rest excepted, and joined they are the bytes but for a newline at the end. -/
theorem answers_pieces (chunks : List Chunk) (ended : Time) (moments : List Time) :
    let bs := chunks.flatMap Chunk.data
    let answers := (ofSource ⟨chunks, .closed ended⟩).answers moments
    (∀ (k : Nat) (answer : Except IoError (Option Bytes)), answers[k]? = some answer →
        answer = .ok (pieces bs)[k]?) ∧
      moments.countP (fun now => ended ≤ now ∧ ∀ chunk ∈ chunks, chunk.time ≤ now) ≤
        answers.length ∧
      (∀ (lines : LineReader) (now later : Time), now ≤ later →
        (lines.poll now).1 = .pending → (lines.poll now).2.poll later = lines.poll later) ∧
      (∃ (lines : List Bytes) (tail : Bytes), bs.splitOn newline = lines ++ [tail] ∧
        pieces bs = lines ++ if tail = [] then [] else [tail]) ∧
      bs = [newline].intercalate (pieces bs) ++
        if bs.getLast? = some newline then [newline] else [] := by
  intro bs answers
  have sound := isSound_ofSource ⟨chunks, .closed ended⟩
  refine ⟨fun k answer said => answers_eq sound rfl moments k said, ?_,
    fun lines now later passed vain => poll_again passed vain, exists_splitOn_pieces bs,
    intercalate_pieces bs⟩
  refine Nat.le_trans (List.countP_mono_left fun now _ all => ?_)
    (le_answers_length sound rfl moments)
  rw [decide_eq_true_eq] at all ⊢
  exact Source.eventsAfter_closed all

-- a line in two chunks, an empty one, a last one without a newline, and three calls in vain
example : (ofSource ⟨[⟨1, [65, 66]⟩, ⟨3, [67, 10, 10]⟩, ⟨5, [68]⟩], .closed 7⟩).answers
    [0, 2, 4, 4, 6, 8, 8, 9] =
      [.ok (some [65, 66, 67]), .ok (some []), .ok (some [68]), .ok none, .ok none] := rfl

end LineReader

end Fleet
