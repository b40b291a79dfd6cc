import Fleet.Copy.Sender
import Fleet.Proofs.Reading

/-!
# Acknowledgements, however they arrive

What the receiving side says is a string of bytes, of which each acknowledgement takes some. `Good`
is the grammar of one after which the copy goes on, and `Acknowledged` of several in a row.

A machine reads them, which may be asked at any time and keeps what it has. **The law**
(`poll_polled`): whenever an answer comes out of it, it is the one that stands at the front of the
bytes still to be used (`read`), and the bytes after it are all still there; until then none of them
is lost. `read_eq_iff` says that these are the answers of the grammar.
-/

namespace Fleet

/-- Whether the stream comes to a proper end. -/
def Ending.closes : Ending → Bool
  | closed _ => true
  | _ => false

namespace Acknowledgement

/-! ## The grammar -/

/-- `Good closes bytes note rest`: the bytes begin with an acknowledgement after which the copy goes
on; it brings a note or none, and `rest` comes after it. A text ends with its line, or with the
stream where that comes to a proper end. -/
inductive Good (closes : Bool) : Bytes → Option String → Bytes → Prop where
  | ok (rest : Bytes) : Good closes (0 :: rest) none rest
  | warning {line rest : Bytes} {text : String} (free : newline ∉ line)
      (reads : Utf8.decode? (line ++ [newline]) = .ok text) :
      Good closes (1 :: (line ++ newline :: rest)) (some (trimEnd text)) rest
  /-- The end of the stream is the end of the text. -/
  | last {line : Bytes} {text : String} (free : newline ∉ line)
      (reads : Utf8.decode? line = .ok text) (ends : closes = true) :
      Good closes (1 :: line) (some (trimEnd text)) []

/-- `Acknowledged closes notes bytes rest`: the bytes begin with so many good acknowledgements,
which bring these notes, and `rest` comes after them. -/
inductive Acknowledged (closes : Bool) : List (Option String) → Bytes → Bytes → Prop where
  | nil (bytes : Bytes) : Acknowledged closes [] bytes bytes
  | cons {note : Option String} {notes : List (Option String)} {bytes next rest : Bytes}
      (good : Good closes bytes note next) (more : Acknowledged closes notes next rest) :
      Acknowledged closes (note :: notes) bytes rest

/-! ## The answer at the front of some bytes -/

/-- The answer that comes with a note or without one. -/
def Answer.ofNote : Option String → Answer
  | none => .ok
  | some text => .warning text

/-- What comes of an acknowledgement of which nothing is there. -/
def unsaid : Ending → Answer
  | .closed _ => .failed (.protocol (.lostConnection .unexpectedEnd))
  | .failure _ e => .failed (.protocol (.lostConnection e))
  | .never => .pending

/-- What comes of a text that the stream does not end with a newline. -/
def unfinished (code : UInt8) (bytes : Bytes) : Ending → Answer
  | .closed _ => judgeBytes code bytes
  | .failure _ e => .failed (.io e)
  | .never => .pending

/-- What a text comes to whose first byte was `code`, when all bytes of the stream are there. -/
def readText (ending : Ending) (code : UInt8) (bytes : Bytes) : Answer × Bytes :=
  match splitLine bytes with
  | some (line, rest) => (judgeBytes code (line ++ [newline]), rest)
  | none => (unfinished code bytes ending, [])

/-- The answer at the front of some bytes and the bytes after it, when all bytes of the stream are
there. -/
def read (ending : Ending) : Bytes → Answer × Bytes
  | [] => (unsaid ending, [])
  | code :: rest => if code = 0 then (.ok, rest) else readText ending code rest

theorem judgeBytes_ne_pending (code : UInt8) (bytes : Bytes) :
    judgeBytes code bytes ≠ .pending := by
  unfold judgeBytes judge
  repeat' split
  all_goals exact fun no => by cases no

/-- **A text is good** if it is a warning that is UTF-8. -/
theorem judgeBytes_eq_iff {code : UInt8} {bytes : Bytes} {note : Option String} :
    judgeBytes code bytes = .ofNote note ↔
      code = 1 ∧ ∃ text, Utf8.decode? bytes = .ok text ∧ note = some (trimEnd text) := by
  unfold judgeBytes
  cases decoded : Utf8.decode? bytes with
  | error bad => cases note <;> simp [Answer.ofNote]
  | ok text =>
    unfold judge
    by_cases warns : code = 1
    · cases note <;> simp [warns, Answer.ofNote, eq_comm]
    · simp only [if_neg warns]
      cases note <;> split <;> simp [warns, Answer.ofNote]

theorem unsaid_ne_ofNote (ending : Ending) (note : Option String) :
    unsaid ending ≠ .ofNote note := by
  cases ending <;> cases note <;> exact fun no => by cases no

theorem unfinished_eq_iff {code : UInt8} {bytes : Bytes} {ending : Ending} {note : Option String} :
    unfinished code bytes ending = .ofNote note ↔
      ending.closes = true ∧ judgeBytes code bytes = .ofNote note := by
  cases ending with
  | closed => exact ⟨fun answer => ⟨rfl, answer⟩, fun answer => answer.2⟩
  | failure | never =>
    refine ⟨fun no => ?_, fun no => ?_⟩
    · cases note <;> cases no
    · cases no.1

/-- **What is read is what the grammar says.** -/
theorem read_eq_iff {ending : Ending} {bytes rest : Bytes} {note : Option String} :
    read ending bytes = (.ofNote note, rest) ↔ Good ending.closes bytes note rest := by
  constructor
  · intro reads
    cases bytes with
    | nil => exact absurd (congrArg Prod.fst reads) (unsaid_ne_ofNote ending note)
    | cons code bytes =>
      by_cases plain : code = 0
      · subst plain
        cases note with
        | none => cases reads; exact .ok _
        | some text => cases reads
      · rw [read, if_neg plain, readText] at reads
        split at reads
        · next line after split =>
          obtain ⟨answer, rfl⟩ := Prod.mk.inj reads
          obtain ⟨rfl, text, decoded, rfl⟩ := judgeBytes_eq_iff.mp answer
          obtain ⟨rfl, free⟩ := splitLine_eq_some split
          exact .warning free decoded
        · next split =>
          obtain ⟨answer, rfl⟩ := Prod.mk.inj reads
          obtain ⟨ends, answer⟩ := unfinished_eq_iff.mp answer
          obtain ⟨rfl, text, decoded, rfl⟩ := judgeBytes_eq_iff.mp answer
          exact .last (splitLine_eq_none split) decoded ends
  · intro good
    cases good with
    | ok => rfl
    | @warning line _ _ free decoded =>
      have answer := judgeBytes_eq_iff.mpr ⟨rfl, _, decoded, rfl⟩
      have text := splitLine_line free rest
      rw [read, if_neg (by decide), readText, text]
      exact congrArg (·, rest) answer
    | last free decoded ends =>
      have answer := unfinished_eq_iff.mpr ⟨ends, judgeBytes_eq_iff.mpr ⟨rfl, _, decoded, rfl⟩⟩
      rw [read, if_neg (by decide), readText, splitLine_of_free free]
      exact congrArg (·, []) answer

/-! ## The machine -/

namespace Progress

/-- The bytes that have not been used for an answer yet. -/
def unread (lines : LineReader) : Progress → Bytes
  | code => lines.rest
  | text first => first :: lines.rest

/-- The reader is where the progress says: it holds a part of a line only inside a text. -/
def Fits (lines : LineReader) : Progress → Prop
  | code => lines.held = []
  | text first => first ≠ 0 ∧ lines.IsSound

end Progress

/-- What an attempt to read an answer can come to. -/
inductive Polled (now : Time) (progress : Progress) (lines : LineReader) :
    Answer × Progress × LineReader → Prop where
  /-- The answer at the front; a good one leaves all bytes after it. -/
  | answered {answer : Answer} {next : LineReader} {rest : Bytes}
      (reads : read lines.reader.source.ending (progress.unread lines) = (answer, rest))
      (some : answer ≠ .pending)
      (good : ∀ note, answer = .ofNote note →
        next.held = [] ∧ next.reader.bytes = rest ∧ lines.Follows next) :
      Polled now progress lines (answer, .code, next)
  /-- No answer yet. -/
  | waiting {progress' : Progress} {next : LineReader}
      (same : progress'.unread next = progress.unread lines) (fits : progress'.Fits next)
      (follows : lines.Follows next) (awaits : next.reader.Awaits now) :
      Polled now progress lines (.pending, progress', next)

/-- Where bytes have been taken but none used for an answer, a later attempt comes to what an
attempt comes to now. -/
private theorem Polled.before {now : Time} {progress progress' : Progress}
    {lines later : LineReader} {outcome : Answer × Progress × LineReader}
    (same : progress'.unread later = progress.unread lines) (follows : lines.Follows later)
    (polled : Polled now progress' later outcome) : Polled now progress lines outcome := by
  cases polled with
  | answered reads some good =>
    rw [same, follows.ending] at reads
    refine .answered reads some fun note answer => ?_
    obtain ⟨held, bytes, further⟩ := good note answer
    exact ⟨held, bytes, follows.trans further⟩
  | waiting same' fits further awaits =>
    exact .waiting (same'.trans same) fits (follows.trans further) awaits

private theorem pollText_polled {now : Time} {first : UInt8} {lines : LineReader}
    (some : first ≠ 0) (sound : lines.IsSound) :
    Polled now (.text first) lines (pollText first lines now) := by
  have front : read lines.reader.source.ending (Progress.unread lines (.text first))
      = readText lines.reader.source.ending first lines.rest := if_neg some
  have reads := LineReader.poll_reads sound now
  unfold pollText
  generalize lines.poll now = result at reads
  cases reads with
  | line split held follows =>
    refine .answered ?_ (judgeBytes_ne_pending _ _) (fun _ _ => ⟨held, rfl, follows⟩)
    rw [front, readText, split]
  | tail free _ ending rest held follows =>
    have said : readText lines.reader.source.ending first lines.rest
        = (judgeBytes first lines.rest, []) := by
      rw [readText, splitLine_of_free free, ending]
      rfl
    exact .answered (front.trans said) (judgeBytes_ne_pending _ _) fun _ _ => ⟨held, rest, follows⟩
  | ended none ending rest held follows =>
    have said : readText lines.reader.source.ending first lines.rest
        = (judgeBytes first [], []) := by
      rw [none, ending]
      rfl
    exact .answered (front.trans said) (judgeBytes_ne_pending _ _) fun _ _ => ⟨held, rest, follows⟩
  | @failed _ e _ free ending =>
    have said : readText lines.reader.source.ending first lines.rest
        = (.failed (.io e), []) := by
      rw [readText, splitLine_of_free free, ending]
      rfl
    refine .answered (front.trans said) (fun no => by cases no) fun note good => ?_
    cases note <;> cases good
  | pending rest sound' follows awaits =>
    exact .waiting (congrArg (first :: ·) rest) ⟨some, sound'⟩ follows awaits

/-- **What an attempt to read an answer comes to**: the answer at the front of the bytes that are
not used yet, or none, and all of them are still there. -/
theorem poll_polled {progress : Progress} {lines : LineReader} (fits : progress.Fits lines)
    (now : Time) : Polled now progress lines (poll progress lines now) := by
  cases progress with
  | text first => exact pollText_polled fits.1 fits.2
  | code =>
    have held : lines.held = [] := fits
    have unread : Progress.unread lines .code = lines.reader.bytes := LineReader.rest_of_held held
    have filled := Reader.poll_fills lines.reader now
    unfold poll
    generalize lines.reader.poll now = result at filled
    cases filled with
    | @data first _ next bytes follows =>
      have followed : lines.Follows { reader := next } := ⟨follows.ending, follows.chunks⟩
      by_cases plain : first = 0
      · simp only [if_pos plain]
        have front : read lines.reader.source.ending (Progress.unread lines .code)
            = (.ok, next.bytes) := by
          rw [unread, bytes, plain]
          rfl
        exact .answered front (fun no => by cases no) fun _ _ =>
          ⟨held, rfl, follows.ending, follows.chunks⟩
      · simp only [if_neg plain]
        -- the text begins where the byte was taken
        have same : Progress.unread { reader := next } (.text first)
            = Progress.unread lines .code := by
          rw [unread, bytes]
          rfl
        exact .before same followed (pollText_polled plain List.not_mem_nil)
    | ended bytes ending =>
      have front : read lines.reader.source.ending (Progress.unread lines .code)
          = (.failed (.protocol (.lostConnection .unexpectedEnd)), []) := by
        rw [unread, bytes, ending]
        rfl
      refine .answered front (fun no => by cases no) fun note good => ?_
      cases note <;> cases good
    | @failed _ e _ bytes ending =>
      have front : read lines.reader.source.ending (Progress.unread lines .code)
          = (.failed (.protocol (.lostConnection e)), []) := by
        rw [unread, bytes, ending]
        rfl
      refine .answered front (fun no => by cases no) fun note good => ?_
      cases note <;> cases good
    | @pending next bytes follows awaits =>
      have same : Progress.unread { lines with reader := next } .code
          = Progress.unread lines .code := by
        rw [unread, ← bytes]
        exact LineReader.rest_of_held held
      exact .waiting same held ⟨follows.ending, follows.chunks⟩ awaits

/-- Of a stream that says nothing more no answer comes. -/
theorem read_silent {progress : Progress} {lines : LineReader} (fits : progress.Fits lines)
    (bytes : lines.reader.bytes = []) : (read .never (progress.unread lines)).1 = .pending := by
  cases progress with
  | code =>
    have none : Progress.unread lines .code = [] :=
      (LineReader.rest_of_held fits).trans bytes
    rw [none]
    rfl
  | text first =>
    have free : newline ∉ lines.rest := by
      rw [LineReader.rest, bytes, List.append_nil]
      exact fits.2
    rw [Progress.unread, read, if_neg fits.1, readText, splitLine_of_free free]
    rfl

end Acknowledgement

end Fleet
