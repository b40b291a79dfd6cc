import Fleet.Proofs.Lines
import Fleet.Relay

/-!
# What a relay writes

A relay takes the lines of two streams as they come, and writes one after another to the console.
In what order it does so depends on when they come. What it writes for one stream does not: each
attempt takes at most one piece of one stream (`Relay.speaker`), the first of those that are still
to come, and leaves the other stream as it is (`Relay.poll_comes`).

**The law** (`Relay.run_complete`): a relay of streams that end, to a console that takes everything,
comes to its end, and has written for each stream what is shown of its pieces, in order and as whole
lines. The record has noted what the first stream carried.
-/

namespace Fleet

namespace Routing

/-- What is shown of a line of a stream, and the exit status that it carries. -/
def read (routing : Routing) (line : Bytes) : Stream → String × Option Int32
  | .out => routing.readOut line
  | .err => (Utf8.lossy line, none)

/-- Where the lines of a stream go. -/
def target (routing : Routing) : Stream → Stream
  | .out => .out
  | .err => routing.errStream

/-- What is shown of the lines of a stream. Nothing is shown of an empty one. -/
def shown (routing : Routing) (v : Stream) (lines : List Bytes) : List String :=
  (lines.map fun line => (routing.read line v).1).filter (· ≠ "")

/-- The record after a line of a stream. -/
def note (routing : Routing) (v : Stream) (record : Record) (line : Bytes) : Record :=
  match (routing.read line v).2 with
  | some code => record.setExitCode code
  | none => record

variable (routing : Routing)

theorem shown_append (v : Stream) (first second : List Bytes) :
    routing.shown v (first ++ second) = routing.shown v first ++ routing.shown v second := by
  rw [shown, List.map_append, List.filter_append, shown, shown]

/-- Lines that carry no status leave the record as it is. -/
theorem foldl_note {v : Stream} {lines : List Bytes}
    (none : ∀ line ∈ lines, (routing.read line v).2 = none) (record : Record) :
    lines.foldl (routing.note v) record = record := by
  induction lines with
  | nil => rfl
  | cons line lines ih =>
    have first : routing.note v record line = record := by
      rw [note, none line List.mem_cons_self]
    rw [List.foldl_cons, first, ih fun line among => none line (List.mem_cons_of_mem _ among)]

end Routing

namespace Console

/-- Neither stream has a limit. -/
structure IsFree (console : Console) : Prop where
  out : console.outRoom = none
  err : console.errRoom = none

theorem IsFree.room {console : Console} (free : console.IsFree) (stream : Stream) :
    console.room stream = none := by
  cases stream with
  | out => exact free.out
  | err => exact free.err

theorem IsFree.spend {console : Console} (free : console.IsFree) (stream : Stream) :
    (console.spend stream).IsFree := by
  cases stream with
  | out => exact ⟨congrArg (Option.map (· - 1)) free.out, free.err⟩
  | err => exact ⟨free.out, congrArg (Option.map (· - 1)) free.err⟩

theorem IsFree.room_ne {console : Console} (free : console.IsFree) (stream : Stream) :
    console.room stream ≠ some 0 := by
  rw [free.room]
  exact fun no => by cases no

/-- **Where there is room, a line is written**, as one unit. -/
theorem write?_of_room {console : Console} {stream : Stream} (room : console.room stream ≠ some 0)
    (now : Time) (label : Option String) (line : String) :
    ∃ console', console.write? now stream label line = some console' ∧
      (console.IsFree → console'.IsFree) ∧
      console'.lines = console.lines ++ [⟨now, stream, format label line⟩] := by
  refine ⟨_, if_neg room, fun free => ?_, rfl⟩
  have spent := free.spend stream
  exact ⟨spent.out, spent.err⟩

end Console

/-- A line that is shown, as it stands on the console. -/
def Routing.written (routing : Routing) (now : Time) (v : Stream) (text : String) : Written :=
  ⟨now, routing.target v, Console.format routing.label text⟩

/-- Where there is room, what there is to show of a line is shown. -/
theorem Routing.show?_of_room {routing : Routing} {console : Console} {v : Stream}
    (room : console.room (routing.target v) ≠ some 0) (now : Time) (line : Bytes) :
    ∃ console',
      routing.show? console now (routing.target v) (routing.read line v).1 = some console' ∧
      (console.IsFree → console'.IsFree) ∧
      console'.lines = console.lines ++ (routing.shown v [line]).map (routing.written now v) := by
  unfold Routing.show?
  by_cases blank : (routing.read line v).1 = ""
  · rw [if_pos blank]
    refine ⟨console, rfl, id, ?_⟩
    have nothing : routing.shown v [line] = [] := by simp [Routing.shown, blank]
    rw [nothing, List.map_nil, List.append_nil]
  · rw [if_neg blank]
    obtain ⟨console', written, frees, lines⟩ :=
      Console.write?_of_room room now routing.label (routing.read line v).1
    refine ⟨console', written, frees, lines.trans ?_⟩
    have one : routing.shown v [line] = [(routing.read line v).1] := by
      simp [Routing.shown, blank]
    rw [one]
    rfl

/-! ## The two voices of a host -/

namespace LineReader

theorem Follows.fails {lines next : LineReader} (follows : lines.Follows next) :
    next.reader.source.fails = lines.reader.source.fails := by
  rw [Source.fails, follows.ending, Source.fails]

end LineReader

/-- A stream of a host as far as it is still open. -/
abbrev Voice := Option LineReader

namespace Voice

/-- The pieces that are still to come. -/
def ahead (voice : Voice) : List Bytes := (voice.map LineReader.ahead).getD []

/-- Whether reading fails in the end. -/
def fails (voice : Voice) : Bool := voice.any fun lines => lines.reader.source.fails

/-- Whether the stream stays open for good. -/
def lasts (voice : Voice) : Bool := voice.any fun lines => lines.reader.source.ending == .never

/-- How often something happens on the stream after a moment. -/
def eventsAfter (voice : Voice) (now : Time) : Nat :=
  (voice.map fun lines => lines.reader.source.eventsAfter now).getD 0

/-- How many attempts to read it can take, waiting included, until the stream has ended. -/
def work (voice : Voice) (now : Time) : Nat :=
  voice.ahead.length + voice.eventsAfter now + if voice.isSome then 1 else 0

/-- What is left of a stream after some pieces were taken. -/
structure Goes (now : Time) (voice : Voice) (taken : List Bytes) (rest : Voice) : Prop where
  ahead : voice.ahead = taken ++ rest.ahead
  fails : rest.fails = true → voice.fails = true
  lasts : rest.lasts = true → voice.lasts = true
  work : rest.work now ≤ voice.work now

/-- The stream ends, and no reading fails before that. -/
structure Ends (voice : Voice) : Prop where
  fails : voice.fails = false
  lasts : voice.lasts = false

theorem ends_of_carries {source : Source} {bs : Bytes} (carries : source.Carries bs) :
    Ends (some (.ofSource source)) := by
  refine ⟨carries.fails, ?_⟩
  obtain ⟨time, ends⟩ := carries.ends
  show (source.ending == .never) = false
  rw [ends]
  rfl

/-- What is left of a stream that ends does so too. -/
theorem Goes.ends {now : Time} {voice rest : Voice} {taken : List Bytes}
    (goes : voice.Goes now taken rest) (ends : voice.Ends) : rest.Ends where
  fails := Bool.eq_false_iff.mpr fun fault => Bool.eq_false_iff.mp ends.fails (goes.fails fault)
  lasts := Bool.eq_false_iff.mpr fun never => Bool.eq_false_iff.mp ends.lasts (goes.lasts never)

theorem Goes.refl (now : Time) (voice : Voice) : voice.Goes now [] voice :=
  ⟨rfl, id, id, Nat.le_refl _⟩

/-- Reading on in a stream. -/
private theorem goes_of_follows (now : Time) (taken : List Bytes) {lines next : LineReader}
    (follows : lines.Follows next) (ahead : lines.ahead = taken ++ next.ahead) :
    Goes now (some lines) taken (some next) ∧
      work (some next) now + taken.length ≤ work (some lines) now := by
  have events := follows.eventsAfter now
  have closer : work (some next) now + taken.length ≤ work (some lines) now := by
    simp only [work, Voice.ahead, eventsAfter, Option.map_some, Option.getD_some,
      Option.isSome_some, if_true, ahead, List.length_append]
    omega
  refine ⟨⟨ahead, ?_, ?_, Nat.le_trans (Nat.le_add_right _ _) closer⟩, closer⟩
  · intro fault
    exact follows.fails.symm.trans fault
  · intro never
    simp only [lasts, Option.any_some, follows.ending] at never ⊢
    exact never

end Voice

namespace Relay

/-- The streams of a host by their names. -/
def voice (relay : Relay) : Stream → Voice
  | .out => relay.out
  | .err => relay.err

/-- A relay about to begin. -/
def ofSources (out : Source) (err : Option Source) : Relay :=
  ⟨some (.ofSource out), err.map .ofSource⟩

/-- How many attempts it can take to relay everything. -/
def work (relay : Relay) (now : Time) : Nat :=
  Voice.work relay.out now + Voice.work relay.err now

/-- The stream that is relayed next: the first one, unless there is nothing to hear from it. -/
def speaker (relay : Relay) (now : Time) : Stream :=
  match listen now relay.out with
  | .silent _ => .err
  | _ => .out

/-- What there can be to hear from a stream. -/
inductive Hears (now : Time) (voice : Voice) : Heard → Prop where
  | line {bytes : Bytes} {rest : LineReader} (goes : voice.Goes now [bytes] (some rest))
      (closer : Voice.work (some rest) now < voice.work now) : Hears now voice (.line bytes rest)
  | ended (goes : voice.Goes now [] none) (closer : Voice.work none now < voice.work now) :
      Hears now voice .ended
  | failed {e : IoError} (fails : voice.fails = true) : Hears now voice (.failed e)
  | silent {rest : Voice} (goes : voice.Goes now [] rest)
      (soon : voice = none ∨ voice.lasts = true ∨ 0 < rest.eventsAfter now) :
      Hears now voice (.silent rest)

theorem listen_hears (now : Time) (voice : Voice) : Hears now voice (listen now voice) := by
  cases voice with
  | none => exact .silent (.refl now none) (.inl rfl)
  | some lines =>
    have polled := lines.poll_polled now
    simp only [listen]
    revert polled
    generalize lines.poll now = result
    intro polled
    cases polled with
    | line follows ahead | tail follows ahead =>
      obtain ⟨goes, closer⟩ := Voice.goes_of_follows now [_] follows ahead
      exact .line goes closer
    | ended ahead =>
      have some : Voice.work none now < Voice.work (some lines) now := Nat.zero_lt_succ _
      refine .ended ⟨ahead, ?_, ?_, Nat.le_of_lt some⟩ some
      · intro fault
        cases fault
      · intro never
        cases never
    | failed fails => exact .failed fails
    | pending follows ahead soon =>
      obtain ⟨goes, -⟩ := Voice.goes_of_follows now [] follows ahead.symm
      refine .silent goes (.inr (soon.imp_left ?_))
      intro never
      simp [Voice.lasts, never]

/-! ## One attempt -/

/-- What an attempt does that relays something: it takes some pieces of one stream, and shows what
there is to show of them. -/
structure Takes (routing : Routing) (now : Time) (record : Record) (console : Console)
    (relay : Relay) (v : Stream) (taken : List Bytes) (record' : Record) (console' : Console)
    (next : Relay) : Prop where
  voices : ∀ w, (relay.voice w).Goes now (if w = v then taken else []) (next.voice w)
  lines : console'.lines = console.lines ++ (routing.shown v taken).map (routing.written now v)
  free : console'.IsFree
  record : record' = taken.foldl (routing.note v) record
  closer : next.work now < relay.work now

/-- What an attempt can come to, where the console takes everything. -/
inductive Comes (routing : Routing) (now : Time) (record : Record) (console : Console)
    (relay : Relay) : Outcome → Prop where
  | advanced {taken : List Bytes} {record' : Record} {console' : Console} {next : Relay}
      (takes : Takes routing now record console relay (relay.speaker now) taken record' console'
        next) : Comes routing now record console relay (.advanced record' console' next)
  | finished (ended : relay.isOpen = false) : Comes routing now record console relay .finished
  | aborted {e : HostError} (asked : record.aborted = true) :
      Comes routing now record console relay (.failed record e)
  | failed {e : HostError} (v : Stream) (fails : (relay.voice v).fails = true) :
      Comes routing now record console relay (.failed record e)
  | waiting {next : Relay} (voices : ∀ v, (relay.voice v).Goes now [] (next.voice v))
      (soon : ∃ v, (relay.voice v).lasts = true ∨ 0 < (next.voice v).eventsAfter now) :
      Comes routing now record console relay (.waiting next)

theorem isNone_and_isNone (relay : Relay) :
    (relay.out.isNone && relay.err.isNone) = !relay.isOpen := by
  unfold isOpen
  cases relay.out <;> cases relay.err <;> rfl

variable (routing : Routing) {now : Time} (record : Record) {console : Console}

/-- Where there is room, what there is to show of a line of the first stream is shown. -/
theorem emitOut_eq (now : Time) (room : console.room (routing.target .out) ≠ some 0)
    (bytes : Bytes) (next : Relay) :
    ∃ console', emitOut routing now record console bytes next
        = .advanced (routing.note .out record bytes) console' next ∧
      (console.IsFree → console'.IsFree) ∧
      console'.lines
        = console.lines ++ (routing.shown .out [bytes]).map (routing.written now .out) := by
  obtain ⟨console', shown, frees, lines⟩ := Routing.show?_of_room room now bytes
  have shown' : routing.show? console now .out (routing.readOut bytes).1 = some console' := shown
  refine ⟨console', ?_, frees, lines⟩
  simp only [emitOut, shown']
  rfl

/-- And of one of the second. -/
theorem emitErr_eq (now : Time) (room : console.room (routing.target .err) ≠ some 0)
    (bytes : Bytes) (next : Relay) :
    ∃ console', emitErr routing now record console bytes next = .advanced record console' next ∧
      (console.IsFree → console'.IsFree) ∧
      console'.lines
        = console.lines ++ (routing.shown .err [bytes]).map (routing.written now .err) := by
  obtain ⟨console', shown, frees, lines⟩ := Routing.show?_of_room room now bytes
  have shown' : routing.show? console now routing.errStream (Utf8.lossy bytes) = some console' :=
    shown
  refine ⟨console', ?_, frees, lines⟩
  simp only [emitErr, shown']

private theorem emitOut_takes (free : console.IsFree) {out : Voice} (err : Voice) {bytes : Bytes}
    {rest : LineReader} (goes : out.Goes now [bytes] (some rest))
    (closer : Voice.work (some rest) now < out.work now) :
    ∃ record' console', emitOut routing now record console bytes ⟨some rest, err⟩
        = .advanced record' console' ⟨some rest, err⟩ ∧
      Takes routing now record console ⟨out, err⟩ .out [bytes] record' console'
        ⟨some rest, err⟩ := by
  obtain ⟨console', same, frees, lines⟩ :=
    emitOut_eq routing record now (free.room_ne _) bytes ⟨some rest, err⟩
  refine ⟨_, console', same, ?_, lines, frees free, rfl, Nat.add_lt_add_right closer _⟩
  rintro (_ | _)
  · exact goes
  · exact .refl now err

private theorem emitErr_takes (free : console.IsFree) {out out' err : Voice} {bytes : Bytes}
    {rest : LineReader} (quiet : out.Goes now [] out') (goes : err.Goes now [bytes] (some rest))
    (closer : Voice.work (some rest) now < err.work now) :
    ∃ console', emitErr routing now record console bytes ⟨out', some rest⟩
        = .advanced record console' ⟨out', some rest⟩ ∧
      Takes routing now record console ⟨out, err⟩ .err [bytes] record console'
        ⟨out', some rest⟩ := by
  obtain ⟨console', same, frees, lines⟩ :=
    emitErr_eq routing record now (free.room_ne _) bytes ⟨out', some rest⟩
  have less := Nat.add_lt_add_of_le_of_lt quiet.work closer
  refine ⟨console', same, ?_, lines, frees free, rfl, less⟩
  rintro (_ | _)
  · exact quiet
  · exact goes

/-- A stream has ended, and the other one has at most been listened to. -/
private theorem takes_nothing (free : console.IsFree) {v : Stream} {relay next : Relay}
    (voices : ∀ w, (relay.voice w).Goes now [] (next.voice w))
    (closer : next.work now < relay.work now) :
    Takes routing now record console relay v [] record console next := by
  refine ⟨fun w => ?_, (List.append_nil _).symm, free, rfl, closer⟩
  rw [ite_self]
  exact voices w

/-- An attempt listens, unless all is over or the host is to abort. -/
theorem poll_of_isOpen {relay : Relay} (unended : relay.isOpen = true)
    (calm : ¬ record.aborted = true) :
    poll routing now record console relay = match listen now relay.out with
      | .line bytes rest => emitOut routing now record console bytes { relay with out := some rest }
      | .ended => .advanced record console { relay with out := none }
      | .failed e => .failed record (.io e)
      | .silent out =>
        match listen now relay.err with
        | .line bytes rest => emitErr routing now record console bytes ⟨out, some rest⟩
        | .ended => .advanced record console ⟨out, none⟩
        | .failed e => .failed record (.io e)
        | .silent err => .waiting ⟨out, err⟩ := by
  rw [poll, isNone_and_isNone, unended]
  exact if_neg calm

/-- Where the first stream is silent, the second one has its turn. -/
private theorem poll_silent_comes (free : console.IsFree) {out out' err : Voice}
    (unended : (Relay.mk out err).isOpen = true) (calm : ¬ record.aborted = true)
    (heard : listen now out = .silent out') :
    Comes routing now record console ⟨out, err⟩ (poll routing now record console ⟨out, err⟩) := by
  have here : (Relay.mk out err).speaker now = .err := by simp only [speaker, heard]
  have hears := listen_hears now out
  rw [heard] at hears
  rw [poll_of_isOpen routing record unended calm]
  simp only [heard]
  cases hears with
  | silent quiet soon =>
    have hears' := listen_hears now err
    generalize heard' : listen now err = result at hears'
    cases hears' with
    | line goes closer =>
      obtain ⟨console', same, takes⟩ := emitErr_takes routing record free quiet goes closer
      simp only [same]
      exact .advanced (by rwa [here])
    | ended goes closer =>
      have less := Nat.add_lt_add_of_le_of_lt quiet.work closer
      refine .advanced (takes_nothing routing record free ?_ less)
      rintro (_ | _)
      · exact quiet
      · exact goes
    | failed fails => exact .failed .err fails
    | silent quiet' soon' =>
      refine .waiting ?_ ?_
      · rintro (_ | _)
        · exact quiet
        · exact quiet'
      -- a stream that has ended is silent too, but they have not both ended
      · rcases soon with rfl | soon
        · rcases soon' with rfl | soon'
          · cases unended
          · exact ⟨.err, soon'⟩
        · exact ⟨.out, soon⟩

/-- **What an attempt comes to**: the first piece of one stream is taken and shown, or it turns out
that there is none; both streams have ended; the host is to abort or a stream fails; or there is
nothing to relay yet, and something to wait for. -/
theorem poll_comes (now : Time) (free : console.IsFree) (relay : Relay) :
    Comes routing now record console relay (poll routing now record console relay) := by
  obtain ⟨out, err⟩ := relay
  cases unended : (Relay.mk out err).isOpen with
  | false =>
    rw [poll, isNone_and_isNone, unended]
    exact .finished unended
  | true =>
    by_cases asked : record.aborted = true
    · rw [poll, isNone_and_isNone, unended, if_pos asked]
      exact .aborted asked
    have hears := listen_hears now out
    generalize heard : listen now out = result at hears
    cases hears with
    | silent => exact poll_silent_comes routing record free unended asked heard
    | line goes closer =>
      have here : (Relay.mk out err).speaker now = .out := by simp only [speaker, heard]
      obtain ⟨record', console', same, takes⟩ :=
        emitOut_takes routing record free err goes closer
      rw [poll_of_isOpen routing record unended asked]
      simp only [heard, same]
      exact .advanced (by rwa [here])
    | ended goes closer =>
      rw [poll_of_isOpen routing record unended asked]
      simp only [heard]
      refine .advanced (takes_nothing routing record free ?_ (Nat.add_lt_add_right closer _))
      rintro (_ | _)
      · exact goes
      · exact .refl now err
    | failed fails =>
      rw [poll_of_isOpen routing record unended asked]
      simp only [heard]
      exact .failed .out fails

/-- Relaying fails only because the host is to abort or a stream fails. -/
theorem cause_of_poll_failed {routing : Routing} {now : Time} {record record' : Record}
    {console : Console} {relay : Relay} {e : HostError} (free : console.IsFree)
    (result : poll routing now record console relay = .failed record' e) :
    record.aborted = true ∨ ∃ v, (relay.voice v).fails = true := by
  have comes := poll_comes routing record now free relay
  rw [result] at comes
  cases comes with
  | aborted asked => exact .inl asked
  | failed v fails => exact .inr ⟨v, fails⟩

/-- A relay that is over has no pieces to come. -/
theorem ahead_of_finished {routing : Routing} {now : Time} {record : Record} {console : Console}
    {relay : Relay} (result : poll routing now record console relay = .finished) (v : Stream) :
    (relay.voice v).ahead = [] := by
  have ended := poll_eq_finished_iff.mp result
  have none : relay.voice v = none := by
    unfold isOpen at ended
    cases v <;> simp_all [voice]
  rw [none]
  rfl

end Relay

/-! ## Who said what -/

/-- The lines that were written for one of several speakers: where, and what. -/
def linesOf {α : Type} [DecidableEq α] (who : α) (said : List (α × Written)) :
    List (Stream × String) :=
  (said.filter (·.1 = who)).map fun (_, line) => (line.stream, line.text)

section LinesOf

variable {α : Type} [DecidableEq α] (who : α)

theorem linesOf_append (first second : List (α × Written)) :
    linesOf who (first ++ second) = linesOf who first ++ linesOf who second := by
  rw [linesOf, List.filter_append, List.map_append, linesOf, linesOf]

theorem linesOf_same (lines : List Written) :
    linesOf who (lines.map (who, ·)) = lines.map fun line => (line.stream, line.text) := by
  rw [linesOf, List.filter_eq_self.mpr, List.map_map]
  · rfl
  · intro said among
    obtain ⟨_, -, rfl⟩ := List.mem_map.mp among
    exact decide_eq_true rfl

theorem linesOf_other {other : α} (differ : other ≠ who) (lines : List Written) :
    linesOf who (lines.map (other, ·)) = [] := by
  rw [linesOf, List.filter_eq_nil_iff.mpr, List.map_nil]
  intro said among
  obtain ⟨_, -, rfl⟩ := List.mem_map.mp among
  rwa [decide_eq_true_eq]

end LinesOf

/-- The lines that are written for the pieces of a stream: where, and what. -/
def Routing.lines (routing : Routing) (v : Stream) (pieces : List Bytes) : List (Stream × String) :=
  (routing.shown v pieces).map fun text => (routing.target v, Console.format routing.label text)

theorem Routing.lines_append (routing : Routing) (v : Stream) (first second : List Bytes) :
    routing.lines v (first ++ second) = routing.lines v first ++ routing.lines v second := by
  rw [lines, shown_append, List.map_append, lines, lines]

namespace Relay

/-- What is shown of the pieces of a stream is said by that stream. -/
theorem linesOf_shown {α : Type} [DecidableEq α] (routing : Routing) (now : Time)
    (taken : List Bytes) (who : Stream → α) (apart : ∀ v w, who v = who w → v = w) (v w : Stream) :
    linesOf (who w) (((routing.shown v taken).map (routing.written now v)).map (who v, ·))
      = routing.lines w (if w = v then taken else []) := by
  by_cases own : w = v
  · rw [own, if_pos rfl, linesOf_same, List.map_map]
    rfl
  · rw [if_neg own, linesOf_other _ fun same => own (apart _ _ same).symm]
    rfl

/-- What an attempt writes is said by the stream that it took the pieces of. -/
theorem Takes.linesOf {α : Type} [DecidableEq α] {routing : Routing} {now : Time}
    {record record' : Record} {console console' : Console} {relay next : Relay} {v : Stream}
    {taken : List Bytes}
    (takes : Takes routing now record console relay v taken record' console' next)
    (who : Stream → α) (apart : ∀ v w, who v = who w → v = w) (w : Stream) :
    linesOf (who w) ((console'.lines.drop console.lines.length).map (who v, ·))
      = routing.lines w (if w = v then taken else []) := by
  rw [takes.lines, List.drop_left]
  exact linesOf_shown routing now taken who apart v w

/-- Only the first stream can have given the host an exit code. -/
theorem Takes.record_out {routing : Routing} {now : Time} {record record' : Record}
    {console console' : Console} {relay next : Relay} {v : Stream} {taken : List Bytes}
    (takes : Takes routing now record console relay v taken record' console' next) :
    record' = (if .out = v then taken else []).foldl (routing.note .out) record := by
  rw [takes.record]
  cases v with
  | out => rfl
  | err => exact routing.foldl_note (fun _ _ => rfl) record

/-! ## Relaying to the end -/

/-- The lines that a relay writes, each with the stream that it was relayed from. -/
def said (routing : Routing) (abortAt : Option Time) :
    Nat → Time → Record → Console → Relay → List (Stream × Written)
  | 0, _, _, _, _ => []
  | steps + 1, now, record, console, relay =>
    let record := if abortAt.any (· ≤ now) then record.abort else record
    match poll routing now record console relay with
    | .advanced record console' next =>
      (console'.lines.drop console.lines.length).map (relay.speaker now, ·)
        ++ said routing abortAt steps now record console' next
    | .waiting next =>
      match (next.nextTimes now ++ abortAt.toList).filter (now < ·) with
      | [] => []
      | t :: ts => said routing abortAt steps (ts.foldl min t) record console next
    | _ => []

section Waiting

variable {now time : Time} {relay : Relay}

theorem work_le (relay : Relay) (passed : now ≤ time) : relay.work time ≤ relay.work now := by
  have voices (voice : Voice) : voice.work time ≤ voice.work now := by
    have events : voice.eventsAfter time ≤ voice.eventsAfter now := by
      cases voice with
      | none => exact Nat.le_refl 0
      | some lines => exact lines.reader.source.eventsAfter_le passed
    unfold Voice.work
    omega
  exact Nat.add_le_add (voices relay.out) (voices relay.err)

/-- When something happens on a stream, there is less to wait for. -/
theorem work_lt_of_mem_nextTimes (next : time ∈ relay.nextTimes now) :
    now < time ∧ relay.work time < relay.work now := by
  have voices {voice : Voice} (next : time ∈ nextAfter now voice) :
      now < time ∧ voice.work time < voice.work now := by
    obtain ⟨lines, rfl, event⟩ := Option.bind_eq_some_iff.mp (Option.mem_toList.mp next)
    obtain ⟨soon, fewer⟩ := Source.nextAfter_eq_some event
    refine ⟨soon, ?_⟩
    exact Nat.add_lt_add_right (Nat.add_lt_add_left fewer _) _
  have rest (voice : Voice) (passed : now < time) : voice.work time ≤ voice.work now :=
    Nat.le_of_add_le_add_right (work_le ⟨voice, none⟩ (Nat.le_of_lt passed))
  rcases List.mem_append.mp next with out | err
  · obtain ⟨soon, fewer⟩ := voices out
    exact ⟨soon, Nat.add_lt_add_of_lt_of_le fewer (rest relay.err soon)⟩
  · obtain ⟨soon, fewer⟩ := voices err
    exact ⟨soon, Nat.add_lt_add_of_le_of_lt (rest relay.out soon) fewer⟩

/-- Where something is to come on a stream, there is a next moment. -/
theorem exists_mem_nextTimes {v : Stream} (soon : 0 < (relay.voice v).eventsAfter now) :
    ∃ time, time ∈ relay.nextTimes now := by
  have voices {voice : Voice} (soon : 0 < voice.eventsAfter now) :
      ∃ time, time ∈ nextAfter now voice := by
    cases voice with
    | none => cases soon
    | some lines =>
      obtain ⟨time, next⟩ := Source.exists_nextAfter soon
      exact ⟨time, Option.mem_toList.mpr next⟩
  cases v with
  | out =>
    obtain ⟨time, next⟩ := voices soon
    exact ⟨time, List.mem_append_left _ next⟩
  | err =>
    obtain ⟨time, next⟩ := voices soon
    exact ⟨time, List.mem_append_right _ next⟩

/-- The moment to which a relay waits is one at which something happens. -/
theorem exists_wait {v : Stream} (soon : 0 < (relay.voice v).eventsAfter now) :
    ∃ t ts, relay.nextTimes now = t :: ts ∧ ts.foldl min t ∈ relay.nextTimes now := by
  obtain ⟨time, among⟩ := exists_mem_nextTimes soon
  cases listed : relay.nextTimes now with
  | nil =>
    rw [listed] at among
    cases among
  | cons t ts => exact ⟨t, ts, rfl, List.min?_mem List.min?_cons'⟩

end Waiting

section Course

variable {routing : Routing} {now : Time} {record record' : Record} {console console' : Console}
  {relay next : Relay}

private theorem run_advanced (steps : Nat)
    (result : poll routing now record console relay = .advanced record' console' next) :
    run routing none (steps + 1) now record console relay
        = run routing none steps now record' console' next ∧
      said routing none (steps + 1) now record console relay
        = (console'.lines.drop console.lines.length).map (relay.speaker now, ·)
          ++ said routing none steps now record' console' next := by
  simp only [run, said, Option.any_none, Bool.false_eq_true, if_false, result, and_self]

/-- Waiting for the next event on a stream. -/
private theorem run_waiting (steps : Nat)
    (result : poll routing now record console relay = .waiting next) {v : Stream}
    (soon : 0 < (next.voice v).eventsAfter now) :
    ∃ time, next.work time < next.work now ∧
      run routing none (steps + 1) now record console relay
        = run routing none steps time record console next ∧
      said routing none (steps + 1) now record console relay
        = said routing none steps time record console next := by
  obtain ⟨t, ts, listed, among⟩ := exists_wait soon
  obtain ⟨-, closer⟩ := work_lt_of_mem_nextTimes among
  have waits : (next.nextTimes now ++ (none : Option Time).toList).filter (now < ·) = t :: ts := by
    rw [Option.toList_none, List.append_nil, ← listed]
    refine List.filter_eq_self.mpr fun time among => ?_
    rw [decide_eq_true_eq]
    exact (work_lt_of_mem_nextTimes among).1
  refine ⟨ts.foldl min t, closer, ?_, ?_⟩
  · simp only [run, Option.any_none, Bool.false_eq_true, if_false, result, waits]
  · simp only [said, Option.any_none, Bool.false_eq_true, if_false, result, waits]

end Course

/-- **A relay of streams that end comes to its end**, where the console takes everything, and has
written for each stream what is to be written for its pieces, in order. -/
theorem run_complete (routing : Routing) {steps : Nat} {now : Time} {record : Record}
    {console : Console} {relay : Relay} (calm : record.aborted = false) (free : console.IsFree)
    (ends : ∀ v, (relay.voice v).Ends)
    (enough : relay.work now < steps) :
    ∃ console' time,
      run routing none steps now record console relay
        = ((relay.voice .out).ahead.foldl (routing.note .out) record, console', time,
          some (.ok ())) ∧
      console'.lines = console.lines
        ++ (said routing none steps now record console relay).map Prod.snd ∧
      ∀ v, linesOf v (said routing none steps now record console relay)
        = routing.lines v (relay.voice v).ahead := by
  -- every attempt and every wait leaves less work, so the steps do not run out
  induction steps generalizing now record console relay with
  | zero => cases enough
  | succ steps ih =>
    have comes := poll_comes routing record now free relay
    generalize result : poll routing now record console relay = outcome at comes
    cases comes with
    | finished =>
      have none := ahead_of_finished result
      refine ⟨console, now, ?_, ?_, ?_⟩
      · simp [run, result, none]
      · simp [said, result]
      · simp [said, result, none, linesOf, Routing.lines, Routing.shown]
    | aborted asked => exact absurd asked (Bool.eq_false_iff.mp calm)
    | failed v fails => exact absurd fails (Bool.eq_false_iff.mp (ends v).fails)
    | @advanced taken record₁ console₁ next takes =>
      obtain ⟨ran, spoken⟩ := run_advanced steps result
      have calm₁ : record₁.aborted = false := by
        obtain ⟨-, code, rfl⟩ := poll_advanced result
        exact calm
      obtain ⟨console', time, whole, lines, written⟩ :=
        ih calm₁ takes.free (fun v => (takes.voices v).ends (ends v))
          (Nat.lt_of_lt_of_le takes.closer (Nat.le_of_lt_succ enough))
      refine ⟨console', time, ?_, ?_, ?_⟩
      · rw [ran, whole, takes.record_out, ← List.foldl_append, ← (takes.voices .out).ahead]
      · rw [spoken, lines, takes.lines, List.drop_left, List.append_assoc]
        simp
      · intro v
        have here := takes.linesOf id (fun _ _ => id) v
        rw [spoken, linesOf_append, written, (takes.voices v).ahead, routing.lines_append]
        exact congrArg (· ++ _) here
    | @waiting next voices soon =>
      obtain ⟨v, soon⟩ := soon
      have soon := soon.resolve_left (Bool.eq_false_iff.mp (ends v).lasts)
      obtain ⟨later, closer, ran, spoken⟩ := run_waiting steps result soon
      have less : next.work later < relay.work now :=
        Nat.lt_of_lt_of_le closer (Nat.add_le_add (voices .out).work (voices .err).work)
      obtain ⟨console', time, whole, lines, written⟩ :=
        ih calm free (fun v => (voices v).ends (ends v))
          (Nat.lt_of_lt_of_le less (Nat.le_of_lt_succ enough))
      refine ⟨console', time, ?_, ?_, ?_⟩
      · rw [ran, whole, (voices .out).ahead]
        rfl
      · rw [spoken, lines]
      · intro v
        rw [spoken, written, (voices v).ahead]
        rfl

end Relay

end Fleet
