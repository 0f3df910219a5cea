namespace Switchboard

inductive FileFault
  | notFound
  | isDirectory
  | notDirectory
  | notText
  | badName
  | nameTooLong
deriving DecidableEq, Repr

inductive DocumentFault
  | cutShort
  | malformed
  | misshapen
deriving DecidableEq, Repr

inductive DispatchError
  | config (text : String)
  | file (fault : FileFault)
  | document (fault : DocumentFault)
  | invalidBounds (rMin rMax : UInt32)
  | queue (text : String)
  | queueNotInstalled
  | taskFailed (callId : UInt64) (reason : String)
  | alreadyResolved (callId : UInt64)
  | promiseLocked (number : String)
  | abandoned (callId : UInt64)
  | internal (text : String)
deriving DecidableEq, Repr

namespace FileFault

def text : FileFault → String
  | notFound => "No such file or directory"
  | isDirectory => "Is a directory"
  | notDirectory => "Not a directory"
  | notText => "stream did not contain valid UTF-8"
  | badName => "file name contained an unexpected NUL byte"
  | nameTooLong => "File name too long"

end FileFault

namespace DocumentFault

def text : DocumentFault → String
  | cutShort => "the document ends too early"
  | malformed => "the document is not well formed"
  | misshapen => "the document has the wrong shape"

end DocumentFault

namespace DispatchError

def fileText (text : String) : String := s!"I/O error: {text}"

def documentText (text : String) : String := s!"JSON error: {text}"

def message : DispatchError → String
  | config text => s!"Configuration error: {text}"
  | file fault => fileText fault.text
  | document fault => documentText fault.text
  | invalidBounds rMin rMax => s!"Invalid service bounds: r_min {rMin} > r_max {rMax}"
  | queue text => s!"Queue error: {text}"
  | queueNotInstalled => "No task queue installed"
  | taskFailed callId reason => s!"Task {callId} failed: {reason}"
  | alreadyResolved callId => s!"Result for call {callId} already resolved"
  | promiseLocked number => s!"Promise for call from {number} cannot be replaced"
  | abandoned callId => s!"Call {callId} was abandoned before a result was produced"
  | internal text => s!"Internal error: {text}"

end DispatchError

/-- An operation stopped half way; what it had done by then stays done. -/
structure Crash where
  reason : String
deriving DecidableEq, Repr

end Switchboard
