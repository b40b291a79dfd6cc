import Fleet.Proofs.Answers
import Fleet.Proofs.Decoding

/-!
# Stop and wait

A copy is an exchange: a group of bytes is sent, an acknowledgement comes back, the next group is
sent. `settle` tells what this comes to when all that the other side says is there from the start.
It goes through the groups and takes an acknowledgement for each, and one more at the end.

The sender does not have it all from the start. **The law** (`poll_polled`): every attempt to get on
leaves what the copy comes to unchanged, so a run comes to the same (`run_eq`), in whatever pieces
and however late the answers arrive.

From it follows what is sent (`stop_and_wait`): a group for each good acknowledgement, and no byte
more. What comes after the last acknowledgement is left to those who read on.
-/

namespace Fleet

open Acknowledgement (Good Acknowledged)

namespace Sending

/-! ## What a copy comes to -/

/-- How a copy ends. -/
inductive End where
  /-- All groups are acknowledged, and these bytes come after that. -/
  | finished (rest : Bytes)
  | failed (e : HostError)
  /-- An acknowledgement never comes. -/
  | silent

/-- What comes of a copy that ends like this. -/
def End.outcome : End → Option (Except HostError Unit)
  | finished _ => some (.ok ())
  | failed e => some (.error e)
  | silent => none

/-- What a copy comes to. -/
structure Result where
  sink : Sink
  warnings : List String
  ended : End

/-- The same, after a note if there is one. -/
def Result.warned (note : Option String) (result : Result) : Result :=
  { result with warnings := note.toList ++ result.warnings }

/-- The note of the acknowledgement at the front of some bytes, and the bytes after it; or how the
copy ends if there is no good one. -/
def heard (ending : Ending) (bytes : Bytes) : Except End (Option String × Bytes) :=
  match Acknowledgement.read ending bytes with
  | (.ok, rest) => .ok (none, rest)
  | (.warning text, rest) => .ok (some text, rest)
  | (.failed e, _) => .error (.failed e)
  | (.pending, _) => .error .silent

/-- What sending groups to a sink comes to, when the other side says these bytes. -/
def settle (fs : FileSystem) (ending : Ending) (sink : Sink) : List Copy.Group → Bytes → Result
  | [], bytes =>
    match heard ending bytes with
    | .ok (note, rest) => ⟨sink, note.toList, .finished rest⟩
    | .error ended => ⟨sink, [], ended⟩
  | group :: groups, bytes =>
    match heard ending bytes with
    | .error ended => ⟨sink, [], ended⟩
    | .ok (note, rest) =>
      match Copy.sendGroup fs sink group with
      | (.ok (), sink) => (settle fs ending sink groups rest).warned note
      | (.error e, sink) => ⟨sink, note.toList, .failed e⟩

section Run

variable {fs : FileSystem} {sending next : Sending} {now : Time}

/-- What a copy comes to from here on. -/
def result (fs : FileSystem) (sending : Sending) : Result :=
  settle fs sending.answers.reader.source.ending sending.sink sending.groups
    (sending.progress.unread sending.answers)

/-- A copy between two attempts to get on with it. -/
def IsSound (sending : Sending) : Prop := sending.progress.Fits sending.answers

theorem heard_ofNote {ending : Ending} {bytes rest : Bytes} {note : Option String}
    (reads : Acknowledgement.read ending bytes = (.ofNote note, rest)) :
    heard ending bytes = .ok (note, rest) := by
  rw [heard, reads]
  cases note <;> rfl

/-- **What is taken for good is what the grammar says.** -/
theorem heard_eq_ok_iff {ending : Ending} {bytes rest : Bytes} {note : Option String} :
    heard ending bytes = .ok (note, rest) ↔ Good ending.closes bytes note rest := by
  rw [← Acknowledgement.read_eq_iff]
  refine ⟨fun heard => ?_, heard_ofNote⟩
  unfold Sending.heard at heard
  split at heard
  all_goals cases heard
  all_goals assumption

theorem settle_heard {ending : Ending} {sink : Sink} {groups : List Copy.Group} {bytes : Bytes}
    {ended : End} (heard : heard ending bytes = .error ended) :
    settle fs ending sink groups bytes = ⟨sink, [], ended⟩ := by
  cases groups with
  | nil => rw [settle, heard]
  | cons group groups => rw [settle, heard]

/-- What an attempt to get on with a copy can come to. -/
inductive Polled (fs : FileSystem) (now : Time) (sending : Sending) : Outcome → Prop where
  | advanced {group : Copy.Group} {note : Option String} {next : Sending}
      (groups : sending.groups = group :: next.groups)
      (result : sending.result fs = (next.result fs).warned note) (sound : next.IsSound)
      (follows : sending.answers.Follows next.answers) :
      Polled fs now sending (.advanced note next)
  | finished {note : Option String} {rest : LineReader} {sink : Sink}
      (result : sending.result fs = ⟨sink, note.toList, .finished rest.reader.bytes⟩)
      (held : rest.held = []) (follows : sending.answers.Follows rest) :
      Polled fs now sending (.finished note rest sink)
  | failed {note : Option String} {e : HostError} {sink : Sink}
      (result : sending.result fs = ⟨sink, note.toList, .failed e⟩) :
      Polled fs now sending (.failed note e sink)
  | waiting {next : Sending} (result : next.result fs = sending.result fs)
      (groups : next.groups = sending.groups) (sink : next.sink = sending.sink)
      (sound : next.IsSound) (follows : sending.answers.Follows next.answers)
      (awaits : next.answers.reader.Awaits now) : Polled fs now sending (.waiting next)

/-- After a good acknowledgement the next group is sent. -/
private theorem proceed_polled {note : Option String} {answers : LineReader}
    (heard : heard sending.answers.reader.source.ending (sending.progress.unread sending.answers)
      = .ok (note, answers.reader.bytes))
    (held : answers.held = []) (follows : sending.answers.Follows answers) :
    Polled fs now sending (sending.proceed fs note answers) := by
  unfold proceed
  cases groups : sending.groups with
  | nil =>
    refine .finished ?_ held follows
    rw [result, groups, settle, heard]
  | cons group groups' =>
    have same : sending.result fs = settle fs sending.answers.reader.source.ending sending.sink
        (group :: groups') (sending.progress.unread sending.answers) := by rw [result, groups]
    rw [settle, heard] at same
    rcases sent : Copy.sendGroup fs sending.sink group with ⟨e | ⟨⟩, sink⟩
    · simp only [sent] at same ⊢
      exact .failed same
    · simp only [sent] at same ⊢
      refine .advanced groups ?_ held follows
      have unread : Acknowledgement.Progress.unread answers .code = answers.reader.bytes :=
        LineReader.rest_of_held held
      rw [same, result, follows.ending, unread]

/-- **What an attempt to get on with a copy comes to.** The copy comes to the same from there on as
before, but for the notes that have been passed on. -/
theorem poll_polled (sound : sending.IsSound) (fs : FileSystem) (now : Time) :
    Polled fs now sending (sending.poll fs now) := by
  have polled := Acknowledgement.poll_polled sound now
  unfold poll
  generalize Acknowledgement.poll sending.progress sending.answers now = read at polled
  cases polled with
  | @answered answer next rest reads some good =>
    cases answer with
    | ok =>
      obtain ⟨held, rfl, follows⟩ := good none rfl
      have heard : heard sending.answers.reader.source.ending
          (sending.progress.unread sending.answers) = .ok (none, next.reader.bytes) :=
        heard_ofNote reads
      exact proceed_polled heard held follows
    | warning text =>
      obtain ⟨held, rfl, follows⟩ := good (.some text) rfl
      have heard : heard sending.answers.reader.source.ending
          (sending.progress.unread sending.answers) = .ok (text, next.reader.bytes) :=
        heard_ofNote reads
      exact proceed_polled heard held follows
    | failed e =>
      have fatal : heard sending.answers.reader.source.ending
          (sending.progress.unread sending.answers) = .error (.failed e) := by rw [heard, reads]
      have same : sending.result fs = ⟨sending.sink, Option.toList none, .failed e⟩ :=
        settle_heard fatal
      exact .failed same
    | pending => exact absurd rfl some
  | waiting same fits follows awaits =>
    refine .waiting ?_ rfl rfl fits follows awaits
    rw [result, result, follows.ending, same]

/-! ## Running to the end -/

/-- Where nothing more will be said, the copy is stuck. -/
theorem result_of_never (sound : sending.IsSound) (bytes : sending.answers.reader.bytes = [])
    (ending : sending.answers.reader.source.ending = .never) :
    sending.result fs = ⟨sending.sink, [], .silent⟩ := by
  refine settle_heard ?_
  have silence := Acknowledgement.read_silent sound bytes
  rw [heard, ending]
  generalize Acknowledgement.read .never _ = answer at silence
  obtain ⟨answer, rest⟩ := answer
  obtain rfl : answer = .pending := silence
  rfl

/-- The reader that a copy leaves to those who read on when all is sent. -/
def remaining (fs : FileSystem) : Nat → Time → Sending → Option LineReader
  | 0, _, _ => none
  | attempts + 1, now, sending =>
    match sending.poll fs now with
    | .advanced _ next => remaining fs attempts now next
    | .finished _ rest _ => some rest
    | .failed .. => none
    | .waiting next =>
      match next.answers.nextTime with
      | some time => remaining fs attempts (max time (now + 1)) next
      | none => none

/-- So many attempts are enough for a copy: one for each group and one for each time that something
arrives, and one more. -/
def IsEnough (attempts : Nat) (now : Time) (sending : Sending) : Prop :=
  sending.groups.length + sending.answers.reader.source.eventsAfter now < attempts

/-- What is said of a run and of the reader that it leaves. -/
structure ComesTo (result : Result)
    (run : Bytes × List String × Option (Except HostError Unit)) (left : Option LineReader) :
    Prop where
  run : run = (result.sink.written, result.warnings, result.ended.outcome)
  left : ∀ rest, result.ended = .finished rest →
    ∃ lines : LineReader, left = some lines ∧ lines.held = [] ∧ lines.reader.bytes = rest

/-- **A run comes to what the exchange comes to**, however the answers arrive. -/
theorem run_comesTo (sound : sending.IsSound) {attempts : Nat}
    (enough : IsEnough attempts now sending) :
    ComesTo (sending.result fs) (sending.run fs attempts now)
      (sending.remaining fs attempts now) := by
  unfold IsEnough at enough
  induction attempts generalizing sending now with
  | zero => cases enough
  | succ attempts ih =>
    have polled := poll_polled sound fs now
    unfold run remaining
    generalize sending.poll fs now = outcome at polled
    cases polled with
    | @advanced _ note next groups same sound' follows =>
      have fewer := follows.eventsAfter now
      rw [groups, List.length_cons] at enough
      have later : ComesTo (next.result fs) (next.run fs attempts now)
          (next.remaining fs attempts now) := ih sound' (by omega)
      rw [same]
      exact ⟨by simp only [later.run]; rfl, later.left⟩
    | @finished _ rest _ same held =>
      rw [same]
      exact ⟨rfl, fun _ ended => ⟨rest, rfl, held, End.finished.inj ended⟩⟩
    | failed same =>
      rw [same]
      exact ⟨rfl, fun _ ended => by cases ended⟩
    | @waiting next same groups sink sound' follows awaits =>
      rw [← same]
      cases awaits with
      | @soon time soon later =>
        have first : next.answers.nextTime = some time := soon
        have moment : max time (now + 1) = time := Nat.max_eq_left later
        have fewer := follows.eventsAfter now
        have passed := Source.eventsAfter_nextTime soon later
        simp only [first, moment]
        exact ih sound' (by rw [groups]; omega)
      | never bytes silent ending =>
        have silence : next.answers.nextTime = none := silent
        simp only [silence, result_of_never sound' bytes ending]
        exact ⟨rfl, fun _ ended => by cases ended⟩

end Run

end Sending

/-! ## What is sent -/

namespace Copy

/-- The bytes of a group, as the files are now. -/
def Group.bytes (fs : FileSystem) : Group → Bytes
  | .line text => Utf8.encode text
  | .content path length => ((fs.read path).toOption.getD []).take length ++ [0]

/-- The file that a group is about has not become shorter. -/
def Group.IsKept (fs : FileSystem) : Group → Prop
  | .line _ => True
  | .content path length => ∃ data, fs.read path = .ok data ∧ length ≤ data.length

/-- The bytes of groups, one after another. -/
def bytesOf (fs : FileSystem) (groups : List Group) : Bytes := groups.flatMap (Group.bytes fs)

end Copy

/-- The file of an entry has not become shorter than it was. -/
def CopyEntry.IsKept (fs : FileSystem) (entry : CopyEntry) : Prop :=
  ∀ length, entry.kind = .file length →
    ∃ data, fs.read entry.path = .ok data ∧ length ≤ data.length

section Kept

variable {fs : FileSystem} {groups : List Copy.Group} {written : Bytes}

theorem Copy.isKept_of_mem_groups {preserve : Bool} {entries : List CopyEntry}
    (kept : ∀ entry ∈ entries, entry.IsKept fs) :
    ∀ group ∈ Copy.groups preserve entries, group.IsKept fs := by
  intro group among
  obtain ⟨entry, here, among⟩ := List.mem_flatMap.mp among
  cases group with
  | line text => exact trivial
  | content path length =>
    have known := kept entry here
    unfold Copy.groupsOf at among
    cases kind : entry.kind with
    | file length' =>
      have same : path = entry.path ∧ length = length' := by simpa [kind] using among
      obtain ⟨rfl, rfl⟩ := same
      exact known length kind
    | directory | leave => simp [kind] at among

theorem FileSystem.find_of_read {path data : Bytes} (reads : fs.read path = .ok data) :
    ∃ node, fs.find path = .ok node := by
  unfold FileSystem.read at reads
  split at reads
  · cases reads
  all_goals exact ⟨_, by assumption⟩

/-- **A group whose file is long enough is sent whole.** -/
theorem Copy.sendGroup_kept {group : Copy.Group} (kept : group.IsKept fs) (written : Bytes) :
    Copy.sendGroup fs ⟨written, none⟩ group = (.ok (), ⟨written ++ group.bytes fs, none⟩) := by
  cases group with
  | line text => rfl
  | content path length =>
    obtain ⟨data, reads, long⟩ := kept
    obtain ⟨node, found⟩ := FileSystem.find_of_read reads
    have short : ¬ data.length < length := Nat.not_lt.mpr long
    have bytes : Group.bytes fs (.content path length) = data.take length ++ [0] := by
      rw [Group.bytes, reads]
      rfl
    rw [bytes, ← List.append_assoc]
    unfold sendGroup
    simp only [found]
    by_cases none : length = 0
    · simp only [none, if_true, Sink.write, List.take_zero, List.length_nil, Nat.lt_irrefl,
        if_false]
    · simp only [if_neg none, reads, Sink.write, if_neg short]

end Kept

/-! ## One acknowledgement, one group -/

namespace Acknowledgement

variable {closes : Bool} {notes : List (Option String)} {bytes rest : Bytes}

/-- The first of several acknowledgements, and the others. -/
theorem Acknowledged.split (acks : Acknowledged closes notes bytes rest) (n : Nat) :
    ∃ between, Acknowledged closes (notes.take n) bytes between ∧
      Acknowledged closes (notes.drop n) between rest := by
  induction acks generalizing n with
  | nil bytes =>
    rw [List.take_nil, List.drop_nil]
    exact ⟨bytes, .nil bytes, .nil bytes⟩
  | @cons note notes bytes next rest good more ih =>
    cases n with
    | zero => exact ⟨bytes, .nil bytes, .cons good more⟩
    | succ n =>
      obtain ⟨between, first, second⟩ := ih n
      exact ⟨between, .cons good first, second⟩

end Acknowledgement

namespace Sending

section Settle

variable {fs : FileSystem} {ending : Ending} {written bytes rest : Bytes}
  {notes : List (Option String)} {before after : List Copy.Group}

/-- The same, after notes. -/
def Result.noted (notes : List (Option String)) (result : Result) : Result :=
  { result with warnings := notes.filterMap id ++ result.warnings }

theorem Result.noted_cons (note : Option String) (notes : List (Option String)) (result : Result) :
    result.noted (note :: notes) = (result.noted notes).warned note := by
  cases note <;> rfl

/-- **A good acknowledgement is worth a group.** -/
theorem settle_append (kept : ∀ group ∈ before, group.IsKept fs)
    (acks : Acknowledged ending.closes notes bytes rest) (many : notes.length = before.length)
    (after : List Copy.Group) :
    settle fs ending ⟨written, none⟩ (before ++ after) bytes
      = (settle fs ending ⟨written ++ Copy.bytesOf fs before, none⟩ after rest).noted notes := by
  induction acks generalizing before written with
  | nil bytes =>
    rw [List.eq_nil_of_length_eq_zero many.symm, List.nil_append, Copy.bytesOf, List.flatMap_nil,
      List.append_nil]
    rfl
  | @cons note notes bytes next rest good more ih =>
    cases before with
    | nil => cases many
    | cons group before =>
      have first := Copy.sendGroup_kept (kept group List.mem_cons_self) written
      have others : ∀ group ∈ before, group.IsKept fs := fun group among =>
        kept group (List.mem_cons_of_mem _ among)
      rw [List.cons_append, settle, heard_eq_ok_iff.mpr good]
      simp only [first]
      rw [ih others (Nat.succ.inj many), Result.noted_cons, Copy.bytesOf, Copy.bytesOf,
        List.flatMap_cons, List.append_assoc]

theorem heard_of_spent (spent : ∀ note next, ¬ Good ending.closes rest note next) :
    ∃ ended, heard ending rest = .error ended ∧ ended.outcome ≠ some (.ok ()) := by
  cases answer : heard ending rest with
  | ok pair => exact absurd (heard_eq_ok_iff.mp answer) (spent pair.1 pair.2)
  | error ended =>
    refine ⟨ended, rfl, ?_⟩
    unfold heard at answer
    split at answer
    all_goals cases answer
    all_goals exact fun no => by cases no

/-- With an acknowledgement for each group and one more, all is sent. -/
theorem settle_finished {groups : List Copy.Group} (kept : ∀ group ∈ groups, group.IsKept fs)
    (acks : Acknowledged ending.closes notes bytes rest)
    (many : notes.length = groups.length + 1) :
    settle fs ending ⟨written, none⟩ groups bytes
      = ⟨⟨written ++ Copy.bytesOf fs groups, none⟩, notes.filterMap id, .finished rest⟩ := by
  obtain ⟨between, first, last⟩ := acks.split groups.length
  obtain ⟨note, one⟩ : ∃ note, notes.drop groups.length = [note] :=
    List.length_eq_one_iff.mp (by rw [List.length_drop]; omega)
  have sent : settle fs ending ⟨written, none⟩ (groups ++ []) bytes = _ :=
    settle_append kept first (List.length_take_of_le (by omega)) []
  have noted : (notes.take groups.length).filterMap id ++ note.toList = notes.filterMap id := by
    have parts := List.take_append_drop groups.length notes
    rw [one] at parts
    rw [← parts, List.filterMap_append, parts]
    cases note <;> rfl
  rw [one] at last
  cases last with
  | cons good more =>
    cases more with
    | nil =>
      rw [List.append_nil] at sent
      rw [sent, settle, heard_eq_ok_iff.mpr good, Result.noted, noted]

/-- With fewer acknowledgements, as many groups are sent as there are acknowledgements. -/
theorem settle_cut {groups : List Copy.Group} (kept : ∀ group ∈ groups, group.IsKept fs)
    (acks : Acknowledged ending.closes notes bytes rest)
    (spent : ∀ note next, ¬ Good ending.closes rest note next)
    (few : notes.length ≤ groups.length) :
    ∃ ended, ended.outcome ≠ some (.ok ()) ∧ settle fs ending ⟨written, none⟩ groups bytes
      = ⟨⟨written ++ Copy.bytesOf fs (groups.take notes.length), none⟩, notes.filterMap id,
        ended⟩ := by
  obtain ⟨ended, stuck, bad⟩ := heard_of_spent spent
  have before : ∀ group ∈ groups.take notes.length, group.IsKept fs := fun group among =>
    kept group (List.mem_of_mem_take among)
  have sent : settle fs ending ⟨written, none⟩
      (groups.take notes.length ++ groups.drop notes.length) bytes = _ :=
    settle_append before acks (List.length_take_of_le few).symm _
  rw [List.take_append_drop, settle_heard stuck, Result.noted, List.append_nil] at sent
  exact ⟨ended, bad, sent⟩

end Settle

/-! ## Stop and wait -/

section StopAndWait

variable {fs : FileSystem} {preserve : Bool} {entries : List CopyEntry} {source : Source}
  {notes : List (Option String)} {rest : Bytes} {attempts : Nat} {now : Time}

/-- A copy about to begin holds nothing of an answer. -/
theorem isSound_start (preserve : Bool) (entries : List CopyEntry) (source : Source)
    (sink : Sink) : (start preserve entries (.ofSource source) sink).IsSound :=
  show (LineReader.ofSource source).held = [] from rfl

theorem start_result : (start preserve entries (.ofSource source) {}).result fs
    = settle fs source.ending {} (Copy.groups preserve entries) source.bytes := rfl

/-- **Stop and wait.** Let what the other side says begin with so many good acknowledgements and go
on with none, in whatever pieces it arrives. Then as many groups are written, from the first one on,
and not a byte more; all is well if and only if there is an acknowledgement more than there are
groups; and the warnings are the notes of the acknowledgements that were used, in order. If all is
well, whoever reads on gets every byte after the last acknowledgement that was used. -/
theorem stop_and_wait (kept : ∀ entry ∈ entries, entry.IsKept fs)
    (acks : Acknowledged source.ending.closes notes source.bytes rest)
    (spent : ∀ note next, ¬ Good source.ending.closes rest note next)
    (enough : (Copy.groups preserve entries).length + source.eventsAfter now < attempts) :
    let groups := Copy.groups preserve entries
    let sending := start preserve entries (.ofSource source) {}
    let (written, warnings, outcome) := sending.run fs attempts now
    written = Copy.bytesOf fs (groups.take notes.length) ∧
      (outcome = some (.ok ()) ↔ groups.length < notes.length) ∧
      warnings = (notes.take (groups.length + 1)).filterMap id ∧
      (outcome = some (.ok ()) → ∃ lines, sending.remaining fs attempts now = some lines ∧
        lines.held = [] ∧ Acknowledged source.ending.closes (notes.take (groups.length + 1))
          source.bytes lines.reader.bytes) := by
  intro groups sending
  have comes : ComesTo (sending.result fs) (sending.run fs attempts now)
      (sending.remaining fs attempts now) :=
    run_comesTo (isSound_start preserve entries source {}) enough
  have long : ∀ group ∈ groups, group.IsKept fs := Copy.isKept_of_mem_groups kept
  rw [start_result] at comes
  rw [comes.run]
  by_cases many : groups.length < notes.length
  · obtain ⟨after, used, -⟩ := acks.split (groups.length + 1)
    have count : (notes.take (groups.length + 1)).length = groups.length + 1 :=
      List.length_take_of_le many
    have result : settle fs source.ending {} groups source.bytes = _ :=
      settle_finished long used count
    rw [result] at comes ⊢
    refine ⟨?_, ⟨fun _ => many, fun _ => rfl⟩, rfl, fun _ => ?_⟩
    · rw [List.take_of_length_le (Nat.le_of_lt many)]
      rfl
    · obtain ⟨lines, left, held, bytes⟩ := comes.left after rfl
      exact ⟨lines, left, held, bytes ▸ used⟩
  · have few := Nat.le_of_not_lt many
    obtain ⟨ended, bad, result⟩ : ∃ ended : End, ended.outcome ≠ some (.ok ()) ∧
        settle fs source.ending {} groups source.bytes = _ := settle_cut long acks spent few
    rw [result]
    refine ⟨rfl, ⟨fun good => absurd good bad, fun more => absurd more many⟩, ?_,
      fun good => absurd good bad⟩
    rw [List.take_of_length_le (Nat.le_succ_of_le few)]

/-- A file of two bytes, and the entry that it gets in a listing. -/
def tinyFile : FileSystem × CopyEntry :=
  (⟨.directory ⟨0o755, 0, 0⟩ [([97], .file ⟨0o644, 5, 7⟩ [104, 105])], []⟩,
    ⟨[97], .file 2, 0o644, 5, 7⟩)

theorem read_tinyFile : tinyFile.1.read [97] = .ok [104, 105] := by
  have found : tinyFile.1.find [97] = .ok (.file ⟨0o644, 5, 7⟩ [104, 105]) := by
    refine FileSystem.find_relative (by decide) (by decide) (by decide) (by decide) ?_
    have steps : FilePath.steps [97] = [[97]] := by decide
    rw [steps, FileSystem.walk_name rfl (by decide) (by decide) (by decide) rfl
      (fun _ no => by cases no), FileSystem.walk]
  rw [FileSystem.read, found]

/-- The first answer is a warning, and it comes in three pieces; after the last one `hi` is said. -/
def slowAnswers : Source :=
  ⟨[⟨3, 1 :: Utf8.encode "sl"⟩, ⟨5, Utf8.encode "ow\n" ++ [0, 0]⟩, ⟨9, 0 :: Utf8.encode "hi"⟩],
    .closed 9⟩

/-- A file is sent with its times in three groups, for which it takes four acknowledgements. -/
theorem stop_and_wait_tinyFile :
    let sending := start true [tinyFile.2] (.ofSource slowAnswers) {}
    (sending.run tinyFile.1 8 0).1 = Utf8.encode "T5 0 7 0\nC0644 2 a\nhi" ++ [0] ∧
      (sending.run tinyFile.1 8 0).2 = (["slow"], some (.ok ())) := by
  have kept : ∀ entry ∈ [tinyFile.2], entry.IsKept tinyFile.1 := by
    intro entry among length file
    cases List.mem_singleton.mp among
    cases file
    exact ⟨[104, 105], read_tinyFile, by decide⟩
  have slow : Utf8.decode? ((Utf8.encode "slow") ++ [newline]) = .ok "slow\n" :=
    Utf8.decode?_encode "slow\n"
  have acks : Acknowledged slowAnswers.ending.closes [some "slow", none, none, none]
      slowAnswers.bytes (Utf8.encode "hi") :=
    .cons (.warning (by decide) slow) (.cons (.ok _) (.cons (.ok _) (.cons (.ok _) (.nil _))))
  have spent : ∀ note next, ¬ Good slowAnswers.ending.closes (Utf8.encode "hi") note next :=
    fun _ _ good => by cases good
  have enough : (Copy.groups true [tinyFile.2]).length + slowAnswers.eventsAfter 0 < 8 := by decide
  obtain ⟨written, fine, warnings, -⟩ := stop_and_wait kept acks spent enough
  have content : Copy.bytesOf tinyFile.1 (Copy.groups true [tinyFile.2])
      = Utf8.encode "T5 0 7 0\nC0644 2 a\nhi" ++ [0] := by
    show Utf8.encode (Copy.timesLine tinyFile.2) ++ (Utf8.encode (Copy.headerLine tinyFile.2)
      ++ (((tinyFile.1.read [97]).toOption.getD []).take 2 ++ [0] ++ [])) = _
    rw [read_tinyFile]
    decide +kernel
  exact ⟨written.trans content, Prod.ext warnings (fine.mpr (by decide))⟩

end StopAndWait

end Sending

end Fleet
