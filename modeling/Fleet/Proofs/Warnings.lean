import Fleet.Proofs.Exchange

/-!
# Warnings

The receiving side of a copy may answer a record with a warning, and the copy goes on. The words of
a warning are its own; they are read as text, and bytes that are not UTF-8 are no text. So such a
warning is not passed on: reading it fails, and with it the copy for the host.

**The law** (`Sending.warned_copy`): whatever the warnings that are text say and however they
arrive, each is passed on once and not a byte behind its line is taken; and a copy that is answered
with nothing worse is carried to its end. The first warning that is not text ends it.
-/

namespace Fleet

open Acknowledgement (Good Acknowledged)

namespace Utf8

variable {m : Bytes}

/-- The bytes are UTF-8. -/
def IsText (m : Bytes) : Prop := ∃ text, decode? m = .ok text

theorem decode?_line {text : String} (reads : decode? m = .ok text) :
    decode? (m ++ [newline]) = .ok (text ++ "\n") := by
  unfold decode? at *
  cases decoded : decodeFrom 0 m with
  | error bad => rw [decoded] at reads; cases reads
  | ok cs =>
    rw [decoded] at reads
    cases reads
    have last : decodeFrom (0 + m.length) [newline] = .ok ['\n'] := by
      rw [decodeFrom, lead, if_pos (by decide)]
      simp only [List.drop_nil, decodeFrom]
      rfl
    rw [decodeFrom_append (by decide) decoded, last]
    exact congrArg Except.ok (String.ofList_append)

theorem decode?_line_error {bad : Malformed} (refused : decode? m = .error bad) :
    ∃ length, decode? (m ++ [newline]) = .error ⟨bad.index, some length⟩ := by
  unfold decode? at *
  cases decoded : decodeFrom 0 m with
  | ok cs => rw [decoded] at refused; cases refused
  | error bad' =>
    rw [decoded] at refused
    cases refused
    obtain ⟨length, refused⟩ := decodeFrom_append_error (a := newline) (by decide) decoded []
    exact ⟨length, by rw [refused]; rfl⟩

end Utf8

/-- The newline of a line is blank. -/
theorem trimEnd_newline (text : String) : trimEnd (text ++ "\n") = trimEnd text := by
  have last : (text ++ "\n").toList = text.toList ++ ['\n'] := String.toList_append
  rw [trimEnd, trimEnd, last, dropEndBlanks, List.reverse_append]
  rfl

namespace Acknowledgement

variable {m rest : Bytes} {lines : LineReader} {ending : Ending} {now : Time}

theorem read_warning (free : newline ∉ m) :
    read ending (1 :: (m ++ newline :: rest)) = (judgeBytes 1 (m ++ [newline]), rest) := by
  rw [read, if_neg (by decide), readText, splitLine_line free]

theorem judgeBytes_text {text : String} (reads : Utf8.decode? m = .ok text) :
    judgeBytes 1 (m ++ [newline]) = .warning (trimEnd text) := by
  rw [judgeBytes, Utf8.decode?_line reads]
  exact congrArg Answer.warning (trimEnd_newline text)

theorem judgeBytes_malformed {bad : Utf8.Malformed} (refused : Utf8.decode? m = .error bad) :
    ∃ length, judgeBytes 1 (m ++ [newline])
      = .failed (.io (.malformedText bad.index (some length))) := by
  obtain ⟨length, refused⟩ := Utf8.decode?_line_error refused
  exact ⟨length, by rw [judgeBytes, refused]⟩

/-- **Whoever waits for an answer gets the one at the front of the bytes**, in whatever pieces and
however late they arrive; a good one leaves all bytes behind it. -/
theorem await_read {progress : Progress} {answer : Answer} {attempts : Nat}
    (fits : progress.Fits lines)
    (reads : read lines.reader.source.ending (progress.unread lines) = (answer, rest))
    (some : answer ≠ .pending) (enough : lines.reader.source.eventsAfter now < attempts) :
    ∃ next time, await attempts progress lines now = (answer, next, time) ∧
      ∀ note, answer = .ofNote note → next.held = [] ∧ next.reader.bytes = rest := by
  induction attempts generalizing progress lines now with
  | zero => cases enough
  | succ attempts ih =>
    have polled := poll_polled fits now
    unfold await
    generalize poll progress lines now = outcome at polled
    cases polled with
    | @answered answer' next rest' reads' some' good =>
      obtain ⟨rfl, rfl⟩ := Prod.mk.inj (reads.symm.trans reads')
      refine ⟨next, now, ?_, fun note same => ?_⟩
      · cases answer with
        | pending => exact absurd rfl some
        | _ => rfl
      · obtain ⟨held, bytes, -⟩ := good note same
        exact ⟨held, bytes⟩
    | @waiting progress' next same fits' follows awaits =>
      cases awaits with
      | @soon time soon later =>
        have first : next.nextTime = .some time := soon
        have moment : max time (now + 1) = time := Nat.max_eq_left later
        have fewer := follows.eventsAfter now
        have passed := Source.eventsAfter_nextTime soon later
        simp only [first, moment]
        exact ih fits' (by rw [follows.ending, same]; exact reads) (by omega)
      | never bytes silent ending =>
        have nothing := read_silent fits' bytes
        rw [same, ← ending, follows.ending, reads] at nothing
        exact absurd nothing some

end Acknowledgement

namespace Sending

/-! ## A copy answered with warnings -/

/-- What the receiving side says to a record when all is well: nothing else, or a warning of these
bytes. -/
def reply : Option Bytes → Bytes
  | none => [0]
  | some m => 1 :: (m ++ [newline])

/-- The note that a reply brings, if it is text. -/
def noteOf (reply : Option Bytes) : Option String :=
  reply.bind fun m => (Utf8.decode? m).toOption.map trimEnd

/-- A reply says nothing else, or a line of text. -/
def IsReadable (reply : Option Bytes) : Prop :=
  ∀ m, reply = some m → newline ∉ m ∧ Utf8.IsText m

section Replies

variable {closes : Bool} {replies : List (Option Bytes)}

theorem good_reply {r : Option Bytes} (readable : IsReadable r) (rest : Bytes) :
    Good closes (reply r ++ rest) (noteOf r) rest := by
  cases r with
  | none => exact .ok rest
  | some m =>
    obtain ⟨free, text, reads⟩ := readable m rfl
    have note : noteOf (some m) = some (trimEnd (text ++ "\n")) := by
      rw [noteOf, Option.bind_some, reads, trimEnd_newline]
      rfl
    rw [reply, note, List.cons_append, List.append_assoc, List.singleton_append]
    exact .warning free (Utf8.decode?_line reads)

theorem acknowledged_replies (readable : ∀ r ∈ replies, IsReadable r) (rest : Bytes) :
    Acknowledged closes (replies.map noteOf) (replies.flatMap reply ++ rest) rest := by
  induction replies with
  | nil => exact .nil rest
  | cons r replies ih =>
    rw [List.map_cons, List.flatMap_cons, List.append_assoc]
    exact .cons (good_reply (readable r List.mem_cons_self) _)
      (ih fun r among => readable r (List.mem_cons_of_mem _ among))

end Replies

section Copy

variable {fs : FileSystem} {preserve : Bool} {entries : List CopyEntry} {source : Source}
  {replies : List (Option Bytes)} {rest : Bytes} {attempts : Nat} {now : Time}

/-- **A copy answered with nothing worse than readable warnings is carried to its end.** -/
theorem run_readable (kept : ∀ entry ∈ entries, entry.IsKept fs)
    (readable : ∀ r ∈ replies, IsReadable r)
    (many : replies.length = (Copy.groups preserve entries).length + 1)
    (bytes : source.bytes = replies.flatMap reply ++ rest)
    (enough : (Copy.groups preserve entries).length + source.eventsAfter now < attempts) :
    (start preserve entries (.ofSource source) {}).run fs attempts now
      = (Copy.bytesOf fs (Copy.groups preserve entries), replies.filterMap noteOf,
        some (.ok ())) := by
  have comes : ComesTo ((start preserve entries (.ofSource source) {}).result fs) _ _ :=
    run_comesTo (isSound_start preserve entries source {}) enough
  have acks : Acknowledged source.ending.closes (replies.map noteOf) source.bytes rest :=
    bytes ▸ acknowledged_replies readable rest
  have result : settle fs source.ending {} (Copy.groups preserve entries) source.bytes = _ :=
    settle_finished (Copy.isKept_of_mem_groups kept) acks (by rw [List.length_map, many])
  rw [comes.run, start_result, result, List.filterMap_map]
  rfl

/-- **The first warning that is not text ends the copy**; the records that were acknowledged before
have been sent. -/
theorem run_unreadable {before after : List (Option Bytes)} {m : Bytes} {bad : Utf8.Malformed}
    (kept : ∀ entry ∈ entries, entry.IsKept fs) (readable : ∀ r ∈ before, IsReadable r)
    (free : newline ∉ m) (refused : Utf8.decode? m = .error bad)
    (few : before.length ≤ (Copy.groups preserve entries).length)
    (bytes : source.bytes = (before ++ some m :: after).flatMap reply ++ rest)
    (enough : (Copy.groups preserve entries).length + source.eventsAfter now < attempts) :
    ∃ length, (start preserve entries (.ofSource source) {}).run fs attempts now
      = (Copy.bytesOf fs ((Copy.groups preserve entries).take before.length),
        before.filterMap noteOf,
        some (.error (.io (.malformedText bad.index (some length))))) := by
  obtain ⟨length, judged⟩ := Acknowledgement.judgeBytes_malformed refused
  have comes : ComesTo ((start preserve entries (.ofSource source) {}).result fs) _ _ :=
    run_comesTo (isSound_start preserve entries source {}) enough
  have split : source.bytes
      = before.flatMap reply ++ 1 :: (m ++ newline :: (after.flatMap reply ++ rest)) := by
    rw [bytes, List.flatMap_append, List.flatMap_cons, List.append_assoc, List.append_assoc, reply,
      List.cons_append, List.append_assoc, List.singleton_append]
  have acks : Acknowledged source.ending.closes (before.map noteOf) source.bytes _ :=
    split ▸ acknowledged_replies readable _
  have fatal : heard source.ending (1 :: (m ++ newline :: (after.flatMap reply ++ rest)))
      = .error (.failed (.io (.malformedText bad.index (some length)))) := by
    rw [heard, Acknowledgement.read_warning free, judged]
  have first : ∀ group ∈ (Copy.groups preserve entries).take before.length, group.IsKept fs :=
    fun group among => Copy.isKept_of_mem_groups kept group (List.mem_of_mem_take among)
  have count : (before.map noteOf).length
      = ((Copy.groups preserve entries).take before.length).length := by
    rw [List.length_map, List.length_take_of_le few]
  have sent : settle fs source.ending {}
      ((Copy.groups preserve entries).take before.length
        ++ (Copy.groups preserve entries).drop before.length) source.bytes = _ :=
    settle_append first acks count _
  rw [List.take_append_drop, settle_heard fatal] at sent
  refine ⟨length, ?_⟩
  rw [comes.run, start_result, sent, Result.noted, List.append_nil, List.filterMap_map]
  rfl

/-- **A warning of text never fails a copy.** Whoever reads an answer that begins with a warning
gets its words once and not a byte behind its line, in whatever pieces it arrives, if it is text;
else reading fails where the text does. So a copy in which each record is answered with nothing or
with a warning is carried to its end if all warnings are text; otherwise the first that is not ends
it. -/
theorem warned_copy (source : Source) (rest : Bytes) (now : Time) (attempts : Nat) :
    (∀ m, newline ∉ m → source.bytes = 1 :: (m ++ newline :: rest) →
      source.eventsAfter now < attempts →
      ∃ answer lines time,
        Acknowledgement.await attempts .code (.ofSource source) now = (answer, lines, time) ∧
        match Utf8.decode? m with
        | .ok text => answer = .warning (trimEnd text) ∧ lines.held = [] ∧ lines.reader.bytes = rest
        | .error bad => ∃ length, answer = .failed (.io (.malformedText bad.index (some length)))) ∧
    ∀ (fs : FileSystem) (preserve : Bool) (entries : List CopyEntry)
      (replies : List (Option Bytes)),
      let groups := Copy.groups preserve entries
      (∀ entry ∈ entries, entry.IsKept fs) → (∀ m, some m ∈ replies → newline ∉ m) →
      replies.length = groups.length + 1 → source.bytes = replies.flatMap reply ++ rest →
      groups.length + source.eventsAfter now < attempts →
      let run := (start preserve entries (.ofSource source) {}).run fs attempts now
      ((∀ m, some m ∈ replies → Utf8.IsText m) →
        run = (Copy.bytesOf fs groups, replies.filterMap noteOf, some (.ok ()))) ∧
      ∀ before m after bad, replies = before ++ some m :: after →
        (∀ m, some m ∈ before → Utf8.IsText m) → Utf8.decode? m = .error bad →
        ∃ length, run = (Copy.bytesOf fs (groups.take before.length), before.filterMap noteOf,
          some (.error (.io (.malformedText bad.index (some length))))) := by
  constructor
  · intro m free bytes enough
    have unread : Acknowledgement.Progress.unread (.ofSource source) .code
        = 1 :: (m ++ newline :: rest) := bytes
    have reads : Acknowledgement.read source.ending
        (Acknowledgement.Progress.unread (.ofSource source) .code)
          = (Acknowledgement.judgeBytes 1 (m ++ [newline]), rest) := by
      rw [unread, Acknowledgement.read_warning free]
    have fits : Acknowledgement.Progress.Fits (.ofSource source) .code :=
      show (LineReader.ofSource source).held = [] from rfl
    obtain ⟨lines, time, awaited, good⟩ := Acknowledgement.await_read fits reads
      (Acknowledgement.judgeBytes_ne_pending _ _) enough
    refine ⟨_, lines, time, awaited, ?_⟩
    cases decoded : Utf8.decode? m with
    | ok text =>
      have warned := Acknowledgement.judgeBytes_text decoded
      exact ⟨warned, good (some (trimEnd text)) warned⟩
    | error bad => exact Acknowledgement.judgeBytes_malformed decoded
  · intro fs preserve entries replies groups kept free many bytes enough
    constructor
    · intro texts
      refine run_readable kept ?_ many bytes enough
      rintro r among m rfl
      exact ⟨free m among, texts m among⟩
    · rintro before m after bad rfl texts refused
      have few : before.length ≤ groups.length := by
        rw [List.length_append, List.length_cons] at many
        omega
      refine run_unreadable kept ?_ (free m (by simp)) refused few bytes enough
      rintro r among m rfl
      exact ⟨free m (List.mem_append_left _ among), texts m among⟩

/-- The file of two bytes is sent although its header is answered with a warning. -/
theorem warned_copy_tinyFile :
    let source : Source :=
      ⟨[⟨3, [0, 1] ++ Utf8.encode "slow"⟩, ⟨5, newline :: [0]⟩], .closed 9⟩
    (start false [tinyFile.2] (.ofSource source) {}).run tinyFile.1 8 0
      = (Utf8.encode "C0644 2 a\nhi" ++ [0], ["slow"], some (.ok ())) := by
  intro source
  have kept : ∀ entry ∈ [tinyFile.2], entry.IsKept tinyFile.1 := by
    intro entry among length file
    cases List.mem_singleton.mp among
    cases file
    exact ⟨[104, 105], read_tinyFile, by decide⟩
  have slow : noteOf (some (Utf8.encode "slow")) = some "slow" := by
    rw [noteOf, Option.bind_some, Utf8.decode?_encode]
    rfl
  have only {m : Bytes} (among : some m ∈ [none, some (Utf8.encode "slow"), none]) :
      m = Utf8.encode "slow" := by simpa using among
  have free : ∀ m, some m ∈ [none, some (Utf8.encode "slow"), none] → newline ∉ m := by
    intro m among
    rw [only among]
    decide
  have texts : ∀ m, some m ∈ [none, some (Utf8.encode "slow"), none] → Utf8.IsText m := by
    intro m among
    rw [only among]
    exact ⟨_, Utf8.decode?_encode "slow"⟩
  have sent := ((warned_copy source [] 0 8).2 tinyFile.1 false [tinyFile.2]
    [none, some (Utf8.encode "slow"), none] kept free rfl rfl (by decide)).1 texts
  have content : Copy.bytesOf tinyFile.1 (Copy.groups false [tinyFile.2])
      = Utf8.encode "C0644 2 a\nhi" ++ [0] := by
    show Utf8.encode (Copy.headerLine tinyFile.2)
      ++ (((tinyFile.1.read [97]).toOption.getD []).take 2 ++ [0] ++ []) = _
    rw [read_tinyFile]
    decide +kernel
  rw [content] at sent
  refine sent.trans ?_
  simp only [List.filterMap_cons, slow]
  rfl

/-- A warning of one byte that is not UTF-8. It is not passed on, and reading it fails. -/
theorem warned_copy_fails :
    ¬ ∀ (source : Source) (m rest : Bytes) (now : Time) (attempts : Nat), newline ∉ m →
      source.bytes = 1 :: (m ++ newline :: rest) → source.eventsAfter now < attempts →
      ∃ text lines time,
        Acknowledgement.await attempts .code (.ofSource source) now = (.warning text, lines, time) ∧
          lines.held = [] ∧ lines.reader.bytes = rest := by
  intro passed
  have refused : Utf8.decode? [0xFF] = .error ⟨0, some 1⟩ := by
    rw [Utf8.decode?, Utf8.decodeFrom]
    rfl
  obtain ⟨length, judged⟩ := Acknowledgement.judgeBytes_malformed refused
  let source : Source := ⟨[⟨0, [1, 0xFF, newline]⟩], .closed 0⟩
  have fits : Acknowledgement.Progress.Fits (.ofSource source) .code :=
    show (LineReader.ofSource source).held = [] from rfl
  have reads : Acknowledgement.read source.ending
      (Acknowledgement.Progress.unread (.ofSource source) .code) = (_, []) :=
    Acknowledgement.read_warning (m := [0xFF]) (by decide)
  have enough : source.eventsAfter 0 < 2 := by decide
  obtain ⟨text, lines, time, awaited, -⟩ := passed source [0xFF] [] 0 2 (by decide) rfl enough
  obtain ⟨_, _, awaited', -⟩ := Acknowledgement.await_read fits reads
    (Acknowledgement.judgeBytes_ne_pending _ _) enough
  have same := congrArg Prod.fst (awaited.symm.trans awaited')
  rw [judged] at same
  cases same

end Copy

end Sending

end Fleet
