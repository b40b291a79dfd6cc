import Fleet.Dispatch.Lane
import Fleet.Proofs.Exchange
import Fleet.Proofs.Relaying

/-!
# What is ahead of a host

What a session will do is laid out with times, and when its worker looks is up to the order of
events. Here it is told without both. An `Utterance` is what a stream says from some place on, an
`Outlook` what is ahead of a host, and a `Fate` what comes of it: where it ends, and what is written
for its streams until then.

An outlook can allow several fates, and only for one reason: a stream on which reading fails cuts
the other one short, wherever that is by then (`Relayed`). A stream that does not meet this is
written in whole.

**The law** (`Outlook.Allows.phase_eq`, `failure_eq`, `exitCode_eq`, `lines_eq`): the fates that an
outlook allows agree in the phase; in the failure, unless both streams fail; and in the exit code,
unless the second stream fails while the first one says something that carries a status. What is
written for a stream is all that it says, unless the other one fails while it says something.
-/

namespace Fleet

/-! ## Whole lines -/

/-- The lines that end with a newline, the first of which starts with `held`. -/
def wholeLinesFrom (held : Bytes) : Bytes → List Bytes
  | [] => []
  | b :: rest =>
    if b = newline then held :: wholeLinesFrom [] rest else wholeLinesFrom (held ++ [b]) rest

/-- The lines that end with a newline. -/
def wholeLines (bs : Bytes) : List Bytes := wholeLinesFrom [] bs

/-- Bytes without a newline are held. -/
theorem wholeLinesFrom_append {line : Bytes} (free : newline ∉ line) (held rest : Bytes) :
    wholeLinesFrom held (line ++ rest) = wholeLinesFrom (held ++ line) rest := by
  induction line generalizing held with
  | nil => rw [List.nil_append, List.append_nil]
  | cons b line ih =>
    have other : b ≠ newline := fun same => free (same ▸ List.mem_cons_self)
    rw [List.cons_append, wholeLinesFrom, if_neg other,
      ih (fun among => free (List.mem_cons_of_mem b among)), List.append_assoc]
    rfl

theorem wholeLines_line {line : Bytes} (free : newline ∉ line) (rest : Bytes) :
    wholeLines (line ++ newline :: rest) = line :: wholeLines rest := by
  rw [wholeLines, wholeLinesFrom_append free, wholeLinesFrom, if_pos rfl, List.nil_append,
    wholeLines]

theorem wholeLines_of_free {bs : Bytes} (free : newline ∉ bs) : wholeLines bs = [] := by
  have whole := wholeLinesFrom_append free [] []
  rw [List.append_nil] at whole
  exact whole

/-! ## What a stream says -/

/-- What a stream says from some place on. -/
structure Utterance where
  /-- Its pieces, in order. -/
  pieces : List Bytes := []
  /-- How reading fails in the end, if it does. -/
  fault : Option IoError := none
  deriving DecidableEq

namespace Utterance

/-- What is said by some bytes, with what comes after them. Only a proper end makes a piece of the
bytes after the last newline. -/
def ofBytes (bytes : Bytes) : Ending → Utterance
  | .closed _ => ⟨Fleet.pieces bytes, none⟩
  | .failure _ e => ⟨wholeLines bytes, some e⟩
  | .never => ⟨wholeLines bytes, none⟩

/-- The same after some pieces. -/
def after (taken : List Bytes) (utterance : Utterance) : Utterance :=
  { utterance with pieces := taken ++ utterance.pieces }

theorem after_nil (utterance : Utterance) : utterance.after [] = utterance := rfl

/-- When a stream ends does not matter. -/
theorem ofBytes_after (bytes : Bytes) (ending : Ending) (origin earliest : Time) :
    ofBytes bytes (ending.after origin earliest) = ofBytes bytes ending := by
  cases ending <;> rfl

/-- The first piece is what stands before the first newline. -/
theorem ofBytes_split {bytes line rest : Bytes} (split : splitLine bytes = some (line, rest))
    (ending : Ending) : ofBytes bytes ending = (ofBytes rest ending).after [line] := by
  obtain ⟨rfl, free⟩ := splitLine_eq_some split
  cases ending with
  | closed => exact congrArg (Utterance.mk · none) (pieces_line free rest)
  | failure | never => exact congrArg (Utterance.mk · _) (wholeLines_line free rest)

end Utterance

namespace LineReader

/-- What a reader will still read. -/
def utterance (lines : LineReader) : Utterance := .ofBytes lines.rest lines.reader.source.ending

/-- A reader about to begin reads what the stream says, whenever the stream is started. -/
theorem utterance_ofSource (source : Source) (origin : Time) :
    (ofSource (source.start origin)).utterance = .ofBytes source.bytes source.ending := by
  have bytes : (ofSource (source.start origin)).rest = source.bytes := source.start_bytes origin
  rw [utterance, bytes]
  exact Utterance.ofBytes_after source.bytes source.ending origin _

end LineReader

namespace Voice

/-- What is still to be heard. -/
def utterance (voice : Voice) : Utterance := (voice.map LineReader.utterance).getD {}

/-- What is held of a line that is not over is part of one line. -/
def IsSound (voice : Voice) : Prop := ∀ lines ∈ voice, lines.IsSound

theorem isSound_none : IsSound none := fun _ no => by cases no

theorem isSound_some {lines : LineReader} (sound : lines.IsSound) : IsSound (some lines) := by
  intro other same
  rwa [← Option.some.inj same]

end Voice

namespace Relay

/-- What there can be to hear from a stream, told by what is still to be heard. -/
inductive Utters (voice : Voice) : Heard → Prop where
  | line {bytes : Bytes} {rest : LineReader}
      (told : voice.utterance = rest.utterance.after [bytes]) (sound : rest.IsSound) :
      Utters voice (.line bytes rest)
  | ended (told : voice.utterance = {}) : Utters voice .ended
  | failed {e : IoError} (told : voice.utterance = ⟨[], some e⟩) : Utters voice (.failed e)
  | silent {rest : Voice} (told : voice.utterance = rest.utterance) (sound : rest.IsSound) :
      Utters voice (.silent rest)

theorem listen_utters (now : Time) {voice : Voice} (sound : voice.IsSound) :
    Utters voice (listen now voice) := by
  cases voice with
  | none => exact .silent rfl Voice.isSound_none
  | some lines =>
    have whole : Voice.utterance (some lines) = lines.utterance := rfl
    have reads := LineReader.poll_reads (sound lines rfl) now
    simp only [listen]
    generalize lines.poll now = result at reads
    cases reads with
    | @line bytes next split held follows =>
      refine .line ?_ (by rw [LineReader.IsSound, held]; exact List.not_mem_nil)
      rw [whole, LineReader.utterance, Utterance.ofBytes_split split, LineReader.utterance,
        LineReader.rest_of_held held, follows.ending]
    | @tail time next free some ending rest held follows =>
      refine .line ?_ (by rw [LineReader.IsSound, held]; exact List.not_mem_nil)
      rw [whole, LineReader.utterance, LineReader.utterance, LineReader.rest_of_held held, rest,
        follows.ending, ending]
      exact congrArg (Utterance.mk · none) (pieces_tail free some)
    | ended none ending =>
      refine .ended ?_
      rw [whole, LineReader.utterance, none, ending]
      rfl
    | failed free ending =>
      refine .failed ?_
      rw [whole, LineReader.utterance, ending]
      exact congrArg (Utterance.mk · _) (wholeLines_of_free free)
    | pending rest sound' follows =>
      refine .silent ?_ (Voice.isSound_some sound')
      show lines.utterance = LineReader.utterance _
      rw [LineReader.utterance, LineReader.utterance, rest, follows.ending]

/-- What is still to be heard of a stream. -/
def utters (relay : Relay) (v : Stream) : Utterance := (relay.voice v).utterance

/-- Both streams are read line by line. -/
structure IsSound (relay : Relay) : Prop where
  out : Voice.IsSound relay.out
  err : Voice.IsSound relay.err

/-- What an attempt to relay can come to. What it takes of a stream is shown, and the rest is still
to be heard. -/
inductive Tells (routing : Routing) (now : Time) (record : Record) (console : Console)
    (relay : Relay) : Outcome → Prop where
  | advanced {taken : Stream → List Bytes} {record' : Record} {console' : Console} {next : Relay}
      (told : ∀ v, relay.utters v = (next.utters v).after (taken v)) (sound : next.IsSound)
      (quiet : ∀ v, v ≠ relay.speaker now → taken v = [])
      (lines : console'.lines = console.lines
        ++ (routing.shown (relay.speaker now) (taken (relay.speaker now))).map
          (routing.written now (relay.speaker now)))
      (note : record' = (taken .out).foldl (routing.note .out) record) :
      Tells routing now record console relay (.advanced record' console' next)
  | finished (told : ∀ v, relay.utters v = {}) : Tells routing now record console relay .finished
  | failed {e : IoError} (v : Stream) (told : relay.utters v = ⟨[], some e⟩) :
      Tells routing now record console relay (.failed record (.io e))
  | waiting {next : Relay} : Tells routing now record console relay (.waiting next)

section Poll

variable (routing : Routing) {now : Time} (record : Record) {console : Console}

/-- A stream has ended, and nothing is shown. -/
private theorem tells_nothing {relay next : Relay} (told : ∀ v, relay.utters v = next.utters v)
    (sound : next.IsSound) :
    Tells routing now record console relay (.advanced record console next) := by
  refine @Tells.advanced _ _ _ _ _ (fun _ => []) _ _ _ ?_ sound (fun _ _ => rfl) ?_ rfl
  · intro v
    rw [Utterance.after_nil]
    exact told v
  · exact (List.append_nil _).symm

/-- Where the first stream is silent, the second one has its turn. -/
private theorem poll_silent_tells {out out' err : Voice}
    (room : console.room (routing.target .err) ≠ some 0)
    (unended : (Relay.mk out err).isOpen = true) (calm : ¬ record.aborted = true)
    (heard : listen now out = .silent out') (rest : out.utterance = out'.utterance)
    (sound : out'.IsSound) (soundErr : err.IsSound) :
    Tells routing now record console ⟨out, err⟩ (poll routing now record console ⟨out, err⟩) := by
  have here : (Relay.mk out err).speaker now = .err := by simp only [speaker, heard]
  rw [poll_of_isOpen routing record unended calm]
  simp only [heard]
  have utters := listen_utters now soundErr
  generalize listen now err = result at utters ⊢
  cases utters with
  | @line bytes next told sound' =>
    obtain ⟨console', same, -, lines⟩ := emitErr_eq routing record now room bytes ⟨out', some next⟩
    simp only [same]
    refine @Tells.advanced _ _ _ _ _ (fun v => if v = .err then [bytes] else []) _ _ _ ?_
      ⟨sound, Voice.isSound_some sound'⟩ ?_ (by rw [here]; exact lines) rfl
    · rintro (_ | _)
      · exact rest
      · exact told
    · rintro (_ | _) other
      · rfl
      · exact absurd here.symm other
  | ended told =>
    refine tells_nothing routing record ?_ ⟨sound, Voice.isSound_none⟩
    rintro (_ | _)
    · exact rest
    · exact told
  | failed told => exact .failed .err told
  | silent => exact .waiting

/-- **What an attempt to relay comes to**, for a host that is not to abort and where there is room
for what it says: a line is shown or a stream has ended, and the rest is still to be heard; all has
been heard; or nothing is left of a stream but that reading fails. -/
theorem poll_tells (now : Time) {relay : Relay}
    (room : console.room (routing.target (relay.speaker now)) ≠ some 0)
    (calm : record.aborted = false) (sound : relay.IsSound) :
    Tells routing now record console relay (poll routing now record console relay) := by
  obtain ⟨out, err⟩ := relay
  have calm := Bool.eq_false_iff.mp calm
  cases unended : (Relay.mk out err).isOpen with
  | false =>
    rw [poll, isNone_and_isNone, unended]
    refine .finished ?_
    unfold isOpen at unended
    rintro (_ | _)
    · cases out with
      | none => rfl
      | some => cases unended
    · cases err with
      | none => rfl
      | some => simp at unended
  | true =>
    have utters := listen_utters now sound.out
    generalize heard : listen now out = result at utters
    cases utters with
    | silent told sound' =>
      have here : (Relay.mk out err).speaker now = .err := by simp only [speaker, heard]
      rw [here] at room
      exact poll_silent_tells routing record room unended calm heard told sound' sound.err
    | @line bytes next told sound' =>
      have here : (Relay.mk out err).speaker now = .out := by simp only [speaker, heard]
      rw [here] at room
      obtain ⟨console', same, -, lines⟩ := emitOut_eq routing record now room bytes ⟨some next, err⟩
      rw [poll_of_isOpen routing record unended calm]
      simp only [heard, same]
      refine @Tells.advanced _ _ _ _ _ (fun v => if v = .out then [bytes] else []) _ _ _ ?_
        ⟨Voice.isSound_some sound', sound.err⟩ ?_ (by rw [here]; exact lines) rfl
      · rintro (_ | _)
        · exact told
        · rfl
      · rintro (_ | _) other
        · exact absurd here.symm other
        · rfl
    | ended told =>
      rw [poll_of_isOpen routing record unended calm]
      simp only [heard]
      refine tells_nothing routing record ?_ ⟨Voice.isSound_none, sound.err⟩
      rintro (_ | _)
      · exact told
      · rfl
    | failed told =>
      rw [poll_of_isOpen routing record unended calm]
      simp only [heard]
      exact .failed .out told

end Poll

end Relay

/-! ## Where relaying can end -/

/-- What can have been taken of two streams when relaying them is over, and the fault that ended it.
Without a fault everything is taken. A fault comes after all that its own stream had to say, and at
any place of the other one. -/
inductive Relayed (utters : Stream → Utterance) :
    (Stream → List Bytes) → Option IoError → Prop where
  | whole (fine : ∀ v, (utters v).fault = none) :
      Relayed utters (fun v => (utters v).pieces) none
  | cut {taken : Stream → List Bytes} {e : IoError} (v : Stream)
      (fault : (utters v).fault = some e) (all : taken v = (utters v).pieces)
      (first : ∀ w, taken w <+: (utters w).pieces) : Relayed utters taken (some e)

/-- The other stream cannot cut this one short: reading it does not fail, or there is nothing to
cut. -/
def Spared (utters : Stream → Utterance) (v : Stream) : Prop :=
  (∀ w, w ≠ v → (utters w).fault = none) ∨ (utters v).pieces = []

/-- Reading fails on one stream at most. -/
def FailsOnce (utters : Stream → Utterance) : Prop :=
  ∀ v w, (utters v).fault.isSome = true → (utters w).fault.isSome = true → v = w

namespace Relayed

variable {utters later : Stream → Utterance} {taken taken' : Stream → List Bytes}
  {fault fault' : Option IoError}

/-- What is taken in the end is what is taken first and what is taken later. -/
theorem before (told : ∀ v, utters v = (later v).after (taken v))
    (relayed : Relayed later taken' fault) :
    Relayed utters (fun v => taken v ++ taken' v) fault := by
  have same : (fun v => taken v ++ (later v).pieces) = fun v => (utters v).pieces := by
    funext v
    rw [told v]
    rfl
  cases relayed with
  | whole fine =>
    rw [same]
    exact .whole fun v => by rw [told v]; exact fine v
  | cut v fault all first =>
    refine .cut v (by rw [told v]; exact fault) ?_ fun w => ?_
    · rw [all, told v]
      rfl
    · rw [told w]
      exact (List.prefix_append_right_inj _).mpr (first w)

theorem taken_eq (relayed : Relayed utters taken fault) {v : Stream} (spared : Spared utters v) :
    taken v = (utters v).pieces := by
  cases relayed with
  | whole => rfl
  | cut w fault all first =>
    by_cases own : w = v
    · rw [← own]
      exact all
    · -- the other stream has failed, so there was nothing to say on this one
      rcases spared with fine | none
      · rw [fine w own] at fault
        cases fault
      · have prior := first v
        rw [none] at prior ⊢
        exact List.prefix_nil.mp prior

theorem taken_prefix (relayed : Relayed utters taken fault) (v : Stream) :
    taken v <+: (utters v).pieces := by
  cases relayed with
  | whole => exact List.prefix_rfl
  | cut w _ _ first => exact first v

theorem fault_eq_none_iff (relayed : Relayed utters taken fault) :
    fault = none ↔ ∀ v, (utters v).fault = none := by
  cases relayed with
  | whole fine => exact ⟨fun _ => fine, fun _ => rfl⟩
  | cut v failed =>
    constructor
    · intro no
      cases no
    · intro fine
      rw [fine v] at failed
      cases failed

/-- Two ends are both good or both bad. -/
theorem isSome_eq (first : Relayed utters taken fault) (second : Relayed utters taken' fault') :
    fault.isSome = fault'.isSome := by
  have same := first.fault_eq_none_iff.trans second.fault_eq_none_iff.symm
  cases fault <;> cases fault' <;> simp_all

theorem fault_eq (first : Relayed utters taken fault) (second : Relayed utters taken' fault')
    (once : FailsOnce utters) : fault = fault' := by
  have same := first.isSome_eq second
  cases first with
  | whole =>
    cases second with
    | whole => rfl
    | cut => cases same
  | cut v failed =>
    cases second with
    | whole => cases same
    | cut w failed' =>
      obtain rfl := once v w (by rw [failed]; rfl) (by rw [failed']; rfl)
      exact failed.symm.trans failed'

end Relayed

/-! ## Exit codes without records -/

/-- An exit code as it is noted. The least number means that there is none. -/
def ExitStatus.known (code : Int32) : Option Int32 :=
  if code = Int32.minValue then none else some code

/-- The exit code that is noted after a line of the first stream. -/
def Routing.noted (routing : Routing) (code : Option Int32) (line : Bytes) : Option Int32 :=
  match (routing.readOut line).2 with
  | some status => ExitStatus.known status
  | none => code

/-- Lines that carry no status leave the exit code as it is. -/
theorem Routing.foldl_noted {routing : Routing} {lines : List Bytes}
    (bare : ∀ line ∈ lines, (routing.readOut line).2 = none) (code : Option Int32) :
    lines.foldl routing.noted code = code := by
  induction lines with
  | nil => rfl
  | cons line lines ih =>
    have first : routing.noted code line = code := by
      rw [noted, bare line List.mem_cons_self]
    rw [List.foldl_cons, first, ih fun line among => bare line (List.mem_cons_of_mem _ among)]

theorem Record.setExitCode_of_running {record : Record}
    (running : record.phase.isTerminal = false) (code : Int32) :
    record.setExitCode code = { record with exitCode := ExitStatus.known code } := by
  rw [setExitCode, running]
  rfl

theorem Routing.foldl_note_out (routing : Routing) (lines : List Bytes) {record : Record}
    (running : record.phase.isTerminal = false) :
    lines.foldl (routing.note .out) record
      = { record with exitCode := lines.foldl routing.noted record.exitCode } := by
  induction lines generalizing record with
  | nil => rfl
  | cons line lines ih =>
    have first : routing.note .out record line
        = { record with exitCode := routing.noted record.exitCode line } := by
      unfold note noted
      show (match (routing.readOut line).2 with
        | some code => record.setExitCode code
        | none => record) = _
      cases (routing.readOut line).2 with
      | none => rfl
      | some code => exact Record.setExitCode_of_running running code
    rw [List.foldl_cons, first]
    exact ih running

/-- What the end of a session means for a host with an exit code or without. -/
def Termination.judge (code : Option Int32) : Termination → Except HostError (Option Int32)
  | .signaled signal => .error (.killed signal)
  | .exited status =>
    if code.isSome then .ok code
    else if status = ExitStatus.clientFailure then .error (.clientFailed status)
    else .ok (ExitStatus.known status)
  | .unknown => .ok code

theorem Termination.verdict_eq (termination : Termination) {record : Record}
    (running : record.phase.isTerminal = false) :
    termination.verdict record
      = (termination.judge record.exitCode).map fun code => { record with exitCode := code } := by
  cases termination with
  | signaled | unknown => rfl
  | exited status =>
    unfold verdict judge
    by_cases known : record.exitCode.isSome = true
    · simp only [if_pos known]
      rfl
    · by_cases failed : status = ExitStatus.clientFailure
      · simp only [if_neg known, if_pos failed]
        rfl
      · simp only [if_neg known, if_neg failed]
        exact congrArg Except.ok (Record.setExitCode_of_running running status)

/-! ## Fates -/

/-- What comes of a host: where it ends, and what is written for its streams until then. -/
structure Fate where
  phase : Phase
  exitCode : Option Int32
  failure : Option String
  /-- What is written for each stream: where, and what. -/
  lines : Stream → List (Stream × String)

namespace Fate

/-- A host of which nothing more is heard. -/
def quiet (phase : Phase) (failure : Option String) (code : Option Int32) : Fate :=
  ⟨phase, code, failure, fun _ => []⟩

/-- A host whose session ends like this when all is relayed. -/
def reaped (code : Option Int32) (outcome : Except HostError Termination) : Fate :=
  match outcome.bind fun termination => termination.judge code with
  | .ok code => quiet .done none code
  | .error e => quiet .failed (some e.message) code

/-- A host for which relaying is over. -/
def ended (code : Option Int32) (outcome : Except HostError Termination) : Option IoError → Fate
  | none => reaped code outcome
  | some e => quiet .failed (some (HostError.io e).message) code

/-- The same after some lines. -/
def said (lines : Stream → List (Stream × String)) (fate : Fate) : Fate :=
  { fate with lines := fun v => lines v ++ fate.lines v }

/-- A host for which so much was relayed, and what ended it. -/
def relayed (routing : Routing) (code : Option Int32) (outcome : Except HostError Termination)
    (taken : Stream → List Bytes) (fault : Option IoError) : Fate :=
  (ended ((taken .out).foldl routing.noted code) outcome fault).said
    fun v => routing.lines v (taken v)

/-- The end of a session settles the same on a record as without one. -/
theorem reaped_eq {record : Record} (running : record.phase.isTerminal = false)
    (outcome : Except HostError Termination) :
    reaped record.exitCode outcome
      = match outcome.bind fun termination => termination.verdict record with
        | .ok record' => quiet .done none record'.exitCode
        | .error e => quiet .failed (some e.message) record.exitCode := by
  unfold reaped
  cases outcome with
  | error e => rfl
  | ok termination =>
    simp only [Except.bind, termination.verdict_eq running]
    cases termination.judge record.exitCode <;> rfl

theorem said_said (first second : Stream → List (Stream × String)) (fate : Fate) :
    (fate.said second).said first = fate.said fun v => first v ++ second v := by
  simp only [said, List.append_assoc]

theorem said_quiet (lines : Stream → List (Stream × String)) (phase : Phase)
    (failure : Option String) (code : Option Int32) :
    (quiet phase failure code).said lines = ⟨phase, code, failure, lines⟩ := by
  simp only [said, quiet, List.append_nil]

@[simp] theorem lines_ended (code : Option Int32) (outcome : Except HostError Termination)
    (fault : Option IoError) : (ended code outcome fault).lines = fun _ => [] := by
  cases fault with
  | some e => rfl
  | none =>
    unfold ended reaped
    cases outcome.bind fun termination => termination.judge code <;> rfl

/-- Where nothing is relayed, nothing is written. -/
theorem relayed_nil (routing : Routing) (code : Option Int32)
    (outcome : Except HostError Termination) (fault : Option IoError) :
    relayed routing code outcome (fun _ => []) fault = ended code outcome fault := rfl

theorem relayed_append (routing : Routing) (code : Option Int32)
    (outcome : Except HostError Termination) (first second : Stream → List Bytes)
    (fault : Option IoError) :
    relayed routing code outcome (fun v => first v ++ second v) fault
      = (relayed routing ((first .out).foldl routing.noted code) outcome second fault).said
        fun v => routing.lines v (first v) := by
  simp only [relayed, said_said, List.foldl_append, Routing.lines_append]

end Fate

/-! ## Outlooks -/

/-- What is ahead of a host. -/
inductive Outlook where
  /-- Nothing more is heard of it. -/
  | settled (phase : Phase) (failure : Option String)
  /-- Its streams are relayed, and then its session ends. -/
  | relays (utters : Stream → Utterance) (outcome : Except HostError Termination)
  /-- Its worker crashes or gets stuck. -/
  | lost

namespace Outlook

/-- A host that fails. -/
def fails (e : HostError) : Outlook := .settled .failed (some e.message)

/-- The fates that an outlook allows for a host with an exit code or without. -/
inductive Allows (routing : Routing) (code : Option Int32) : Outlook → Fate → Prop where
  | settled (phase : Phase) (failure : Option String) :
      Allows routing code (.settled phase failure) (.quiet phase failure code)
  | relays {utters : Stream → Utterance} {outcome : Except HostError Termination}
      {taken : Stream → List Bytes} {fault : Option IoError}
      (relayed : Relayed utters taken fault) :
      Allows routing code (.relays utters outcome) (.relayed routing code outcome taken fault)

/-- What a stream is going to say. -/
def pieces : Outlook → Stream → List Bytes
  | relays utters _, v => (utters v).pieces
  | _, _ => []

/-- The other stream cannot cut this one short. -/
def Spares : Outlook → Stream → Prop
  | relays utters _, v => Spared utters v
  | _, _ => True

/-- No line of the first stream carries an exit status. -/
def IsBare (routing : Routing) : Outlook → Prop
  | relays utters _ => ∀ line ∈ (utters .out).pieces, (routing.readOut line).2 = none
  | _ => True

/-- Reading fails on one stream at most. -/
def FailsOnce : Outlook → Prop
  | relays utters _ => Fleet.FailsOnce utters
  | _ => True

variable {routing : Routing} {code : Option Int32} {outlook : Outlook} {fate fate' : Fate}

theorem Allows.eq_quiet {phase : Phase} {failure : Option String}
    (allows : Allows routing code (.settled phase failure) fate) :
    fate = .quiet phase failure code := by
  cases allows
  rfl

/-- Under another label the same is allowed, but for what is written. -/
theorem Allows.relabel (allows : outlook.Allows routing code fate) (label : Option String) :
    ∃ lines, outlook.Allows { routing with label } code { fate with lines } := by
  cases allows with
  | settled phase failure => exact ⟨_, .settled phase failure⟩
  | relays relayed => exact ⟨_, .relays relayed⟩

section Relaying

variable {utters later : Stream → Utterance} {outcome : Except HostError Termination}

/-- What is allowed later is allowed before, after what is relayed in between. -/
theorem Allows.before {taken : Stream → List Bytes}
    (told : ∀ v, utters v = (later v).after (taken v))
    (allows : Allows routing ((taken .out).foldl routing.noted code) (.relays later outcome) fate) :
    Allows routing code (.relays utters outcome)
      (fate.said fun v => routing.lines v (taken v)) := by
  cases allows with
  | relays relayed =>
    rw [← Fate.relayed_append]
    exact .relays (relayed.before told)

/-- Relaying can fail as soon as nothing is left of a stream but that. -/
theorem Allows.of_fault {e : IoError} (v : Stream) (told : utters v = ⟨[], some e⟩) :
    Allows routing code (.relays utters outcome) (.ended code outcome (some e)) := by
  have cut : Relayed utters (fun _ => []) (some e) :=
    .cut v (by rw [told]) (by rw [told]) fun _ => List.nil_prefix
  rw [← Fate.relayed_nil routing]
  exact .relays cut

/-- Where nothing more is said, the session ends. -/
theorem Allows.of_silence (told : ∀ v, utters v = {}) :
    Allows routing code (.relays utters outcome) (.ended code outcome none) := by
  obtain rfl : utters = fun _ => {} := funext told
  have whole : Relayed (fun _ => {}) (fun _ => []) none := .whole fun _ => rfl
  rw [← Fate.relayed_nil routing]
  exact .relays whole

end Relaying

/-! ### What all fates have in common -/

theorem Allows.phase_eq (first : outlook.Allows routing code fate)
    (second : outlook.Allows routing code fate') : fate.phase = fate'.phase := by
  cases first with
  | settled =>
    cases second
    rfl
  | @relays _ _ _ fault one =>
    cases second with
    | @relays _ _ _ fault' other =>
      have same := one.isSome_eq other
      cases one with
      | whole =>
        cases other with
        | whole => rfl
        | cut => cases same
      | cut =>
        cases other with
        | whole => cases same
        | cut => rfl

theorem Allows.failure_eq (first : outlook.Allows routing code fate)
    (second : outlook.Allows routing code fate') (once : outlook.FailsOnce) :
    fate.failure = fate'.failure := by
  cases first with
  | settled =>
    cases second
    rfl
  | relays one =>
    cases second with
    | relays other =>
      obtain rfl := one.fault_eq other once
      cases one with
      | whole =>
        cases other
        rfl
      | cut => rfl

theorem Allows.exitCode_eq (first : outlook.Allows routing code fate)
    (second : outlook.Allows routing code fate')
    (spares : outlook.Spares .out ∨ outlook.IsBare routing) :
    fate.exitCode = fate'.exitCode := by
  cases first with
  | settled =>
    cases second
    rfl
  | @relays utters outcome taken fault one =>
    cases second with
    | @relays _ _ taken' fault' other =>
      have same := one.isSome_eq other
      have known :
          (taken .out).foldl routing.noted code = (taken' .out).foldl routing.noted code := by
        rcases spares with spared | bare
        · rw [one.taken_eq spared, other.taken_eq spared]
        · rw [Routing.foldl_noted fun line among => bare line ((one.taken_prefix .out).mem among),
            Routing.foldl_noted fun line among => bare line ((other.taken_prefix .out).mem among)]
      show (Fate.ended _ outcome fault).exitCode = (Fate.ended _ outcome fault').exitCode
      rw [known]
      cases fault <;> cases fault' <;> first | rfl | cases same

/-- **What is written for a stream that is not cut short** is all that the stream says. -/
theorem Allows.lines_eq (allows : outlook.Allows routing code fate) {v : Stream}
    (spares : outlook.Spares v) : fate.lines v = routing.lines v (outlook.pieces v) := by
  cases allows with
  | settled => rfl
  | relays relayed =>
    simp only [Fate.relayed, Fate.said, Fate.lines_ended, List.append_nil]
    rw [relayed.taken_eq spares]
    rfl

end Outlook

end Fleet
