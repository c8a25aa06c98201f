import WorkspaceSession.Log

/-! Telling the user what goes on. A reporter is told of status changes and messages; hooks with a
renderer put their messages on a channel instead. -/
namespace WorkspaceSession

inductive Notice where
  | status (text : String)
  | message (text : String)
deriving DecidableEq

inductive Reporter where
  | external | log | silent
deriving DecidableEq

def Reporter.logLines : Reporter → Notice → List LogLine
  | .log, .status text => [.info ("⏳ " ++ text)]
  | .log, .message text => [.info text]
  | _, _ => []

/-- Texts sent and not yet received. Once the receiver is gone, texts are dropped. -/
structure Channel where
  queue : List String := []
  isOpen : Bool := true
deriving DecidableEq

namespace Channel

def send (c : Channel) (text : String) : Channel :=
  if c.isOpen then { c with queue := c.queue ++ [text] } else c

def drain (c : Channel) : List String × Channel := (c.queue, { c with queue := [] })

def dropReceiver (_ : Channel) : Channel := ⟨[], false⟩

end Channel

/-- Plain hooks, or their copy that renders messages. -/
inductive Hooks where
  | plain | rendering
deriving DecidableEq

def Hooks.forwards : Hooks → Notice → Bool
  | .rendering, .message _ => false
  | _, _ => true

structure Board where
  reporter : Reporter := .external
  notices : List Notice := []
  log : List LogLine := []
  channel : Channel := {}

namespace Board

def tell (b : Board) (n : Notice) : Board :=
  { b with notices := b.notices ++ [n], log := b.log ++ b.reporter.logLines n }

def setStatus (b : Board) (text : String) : Board := b.tell (.status text)

def message (b : Board) (hooks : Hooks) (text : String) : Board :=
  match hooks with
  | .plain => b.tell (.message text)
  | .rendering => { b with channel := b.channel.send text }

def send (hooks : Hooks) (b : Board) : Notice → Board
  | .status text => b.setStatus text
  | .message text => b.message hooks text

def receive (b : Board) : List String × Board :=
  (b.channel.drain.1, { b with channel := b.channel.drain.2 })

def dropReceiver (b : Board) : Board := { b with channel := b.channel.dropReceiver }

end Board
end WorkspaceSession
