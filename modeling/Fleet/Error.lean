import Fleet.Phase

/-!
# What can go wrong

Faults come in two sizes. A `HostError` concerns one host: it is recorded with that host and the
rest of the run goes on. A `DispatchError` ends the whole run. Both name the cause; the words in
which it is told are in the `message` functions, and nowhere else.
-/

namespace Fleet

/-- Faults that the operating system reports about a file, a program or a signal. -/
inductive SystemError where
  | notFound
  | permissionDenied
  | notDirectory
  | isDirectory
  | invalidArgument
  | nameTooLong
  | tooManyLinks
  deriving Repr, DecidableEq

namespace SystemError

/-- The number under which the system knows the fault. -/
def number : SystemError → Nat
  | notFound => 2
  | permissionDenied => 13
  | notDirectory => 20
  | isDirectory => 21
  | invalidArgument => 22
  | nameTooLong => 36
  | tooManyLinks => 40

/-- The system's description of the fault. -/
def description : SystemError → String
  | notFound => "No such file or directory"
  | permissionDenied => "Permission denied"
  | notDirectory => "Not a directory"
  | isDirectory => "Is a directory"
  | invalidArgument => "Invalid argument"
  | nameTooLong => "File name too long"
  | tooManyLinks => "Too many levels of symbolic links"

/-- The description followed by the number. -/
def message (e : SystemError) : String := s!"{e.description} (os error {e.number})"

end SystemError

/-- Faults of reading and writing. -/
inductive IoError where
  /-- Reported by the operating system. -/
  | system (e : SystemError)
  /-- The console takes no more output. -/
  | consoleClosed
  /-- The other side of an input pipe takes no more bytes. -/
  | pipeClosed
  /-- A stream ended where a byte was needed. -/
  | unexpectedEnd
  /-- Bytes that had to be text are not UTF-8: where, and how many bytes if not cut short. -/
  | malformedText (index : Nat) (length : Option Nat)
  /-- A file name holds a zero byte. -/
  | zeroInName
  /-- Reported by a stream or a name service in its own words. -/
  | reported (reason : String)
  deriving Repr, DecidableEq

/-- The words for a fault of reading or writing. -/
def IoError.message : IoError → String
  | system e => e.message
  | consoleClosed => "console closed"
  | pipeClosed => "pipe closed"
  | unexpectedEnd => "unexpected end of file"
  | malformedText index (some length) =>
    s!"invalid utf-8 sequence of {length} bytes from index {index}"
  | malformedText index none => s!"incomplete utf-8 byte sequence from index {index}"
  | zeroInName => "file name contained an unexpected NUL byte"
  | reported reason => reason

/-- Why a template could not be used. -/
inductive TemplateFault where
  /-- The source is not a template. -/
  | malformed
  /-- A helper was given something it cannot work on, or does not exist. -/
  | helper (name : String)
  /-- Told in words. -/
  | told (reason : String)
  deriving Repr, DecidableEq

/-- The words for a template's fault. -/
def TemplateFault.message : TemplateFault → String
  | malformed => "malformed template"
  | helper name => s!"cannot apply helper {name}"
  | told reason => reason

/-- Breaches of the protocol in which files are copied. -/
inductive ProtocolFault where
  /-- The session takes no input, so nothing can be sent. -/
  | noInput
  /-- No acknowledgement could be read. -/
  | lostConnection (cause : IoError)
  /-- The receiving side refused, in its own words. -/
  | refused (reason : String)
  /-- An acknowledgement started with a byte that means nothing. -/
  | unexpectedByte (byte : UInt8) (rest : String)
  /-- A file had fewer bytes than were announced. -/
  | shrank (path : String)
  deriving Repr, DecidableEq

/-- The words for a breach of the copy protocol. -/
def ProtocolFault.message : ProtocolFault → String
  | noInput => "session has no input stream"
  | lostConnection cause => s!"lost connection waiting for ack: {cause.message}"
  | refused reason => reason
  | unexpectedByte byte rest => s!"unexpected ack byte {byte.toNat} {rest}"
  | shrank path => s!"{path}: file shrank while copying"

/-- Why a local client program did not start. -/
inductive SpawnFault where
  /-- Its command template could not be rendered. -/
  | template (source : String) (fault : TemplateFault)
  /-- A quote in the rendered template is never closed. -/
  | unclosedQuote
  /-- The system did not run the program. -/
  | program (name : String) (e : SystemError)
  /-- Told in words. -/
  | told (reason : String)
  deriving Repr, DecidableEq

/-- The words for a template that failed on a given source. -/
def templateMessage (source : String) (fault : TemplateFault) : String :=
  s!"Failed to render template '{source}': {fault.message}"

/-- The words for a quote that is never closed. -/
def unclosedQuoteMessage : String := "missing closing quote"

/-- The words for a program that did not start. -/
def SpawnFault.message : SpawnFault → String
  | template source fault => templateMessage source fault
  | unclosedQuote => unclosedQuoteMessage
  | program name e => s!"{name}: {e.message}"
  | told reason => reason

/-- Faults of one host. They are recorded with the host and do not concern the others. -/
inductive HostError where
  /-- The session could not be opened. -/
  | connect (reason : String)
  /-- The remote shell layer failed. -/
  | ssh (reason : String)
  /-- Reading or writing failed. -/
  | io (e : IoError)
  /-- The host was aborted in a phase. -/
  | interrupted (phase : Phase)
  /-- The receiving side of a copy broke the protocol, or we did. -/
  | protocol (fault : ProtocolFault)
  /-- No local client could be started. -/
  | spawn (fault : SpawnFault)
  /-- The client ended with its own failure status. -/
  | clientFailed (status : Int32)
  /-- The client was killed by a signal. -/
  | killed (signal : Int32)
  deriving Repr, DecidableEq

/-- The words for a host's fault. -/
def HostError.message : HostError → String
  | connect reason => reason
  | ssh reason => s!"ssh: {reason}"
  | io e => e.message
  | interrupted phase => s!"command timed out or was interrupted while {phase.name}"
  | protocol fault => s!"protocol error: {fault.message}"
  | spawn fault => s!"failed to start local client: {fault.message}"
  | clientFailed status =>
    s!"client exited with status {status.toInt} before the command reported one"
  | killed signal => s!"client killed by signal {signal.toInt}"

/-- Why a hosts file could not be used. -/
inductive HostsFileFault where
  /-- The file could not be read. -/
  | system (e : SystemError)
  /-- The content is no list of hosts. -/
  | content
  /-- Told in words. -/
  | told (reason : String)
  deriving Repr, DecidableEq

/-- The words for a hosts file's fault. -/
def HostsFileFault.message : HostsFileFault → String
  | system e => e.message
  | content => "not a list of hosts"
  | told reason => reason

/-- Why a source cannot be copied. -/
inductive SourceFault where
  /-- The system refused access. -/
  | io (e : IoError)
  /-- The path ends in no name under which the source could be stored. -/
  | noFileName
  /-- A directory, and directories were not asked for. -/
  | directory
  /-- Neither a regular file nor a directory. -/
  | special
  /-- Told in words. -/
  | told (reason : String)
  deriving Repr, DecidableEq

/-- The words for a source that cannot be copied. -/
def SourceFault.message : SourceFault → String
  | io e => e.message
  | noFileName => "cannot copy a path without a file name"
  | directory => "is a directory (use -r)"
  | special => "not a regular file or directory"
  | told reason => reason

/-- Why a backend cannot be used at all. -/
inductive InitFault where
  /-- A quote in the client template is never closed. -/
  | unclosedQuote (template : String)
  /-- The client template gives no words. -/
  | emptyCommand (template : String)
  /-- Told in words. -/
  | told (reason : String)
  deriving Repr, DecidableEq

/-- The words for a backend that cannot be used. -/
def InitFault.message : InitFault → String
  | unclosedQuote template => s!"exec template '{template}': {unclosedQuoteMessage}"
  | emptyCommand template => s!"exec template '{template}' renders to an empty command"
  | told reason => reason

/-- Faults that end a whole run. -/
inductive DispatchError where
  /-- There is nobody to talk to. -/
  | noHosts
  /-- The list of hosts could not be read. -/
  | hostsFile (path : String) (fault : HostsFileFault)
  /-- A host has no address. -/
  | resolution (host : String) (e : IoError)
  /-- A source cannot be copied. -/
  | enumeration (path : String) (fault : SourceFault)
  /-- A command template is malformed or cannot be rendered for some host. -/
  | template (source : String) (fault : TemplateFault)
  /-- The backend is not usable. -/
  | init (fault : InitFault)
  /-- The worker of a host crashed. -/
  | worker (host : String) (reason : String)
  /-- The user asked to stop. -/
  | interrupted
  /-- A host failed in a run where all hosts have to succeed. -/
  | lockstepAbort (host : String)
  deriving Repr, DecidableEq

/-- The words for a fault that ends a run. -/
def DispatchError.message : DispatchError → String
  | noHosts => "No target hosts given"
  | hostsFile path fault => s!"Failed to read hosts file {path}: {fault.message}"
  | resolution host e => s!"Failed to resolve host {host}: {e.message}"
  | enumeration path fault => s!"{path}: {fault.message}"
  | template source fault => templateMessage source fault
  | init fault => s!"Connection backend initialization failed: {fault.message}"
  | worker host reason => s!"Worker for {host} died: {reason}"
  | interrupted => "Interrupted"
  | lockstepAbort host => s!"Lock-step session failed on {host}, aborting all hosts"

end Fleet
