import Loggaper.Launchpads.Pump.Traders
import Loggaper.Lib.Transition

/-!
# The pump pipeline

The consumer loop takes the events of the feed one by one. It skips a launch with the other mayhem
flag, lets the launchpad's actor react to the event, asks it whether the token exists, asks it for
the bucket, and sends the event on. Each request goes through the actor's bounded mailbox, which
other tasks share; they only ask. A dropped reply channel ends the event.
-/

namespace Loggaper

/-- The requests of the loop, in their order. -/
inductive Request
  | event
  | tokenExists
  | getBucket
  deriving DecidableEq, Repr

def Request.command (r : Request) (slot : Slot) (e : PumpEvent) : PumpLaunchpadCommand :=
  match r with
  | .event => .event slot e
  | .tokenExists => .tokenExists e.mint
  | .getBucket => .getBucket e.mint

/-- A oneshot channel, as its receiver sees it. -/
inductive Oneshot
  | pending
  | sent (a : LaunchpadAnswer)
  | dropped
  deriving DecidableEq, Repr

/-- Where the consumer loop stands. -/
inductive Consumer
  | recv
  | sending (r : Request) (slot : Slot) (e : PumpEvent)
  | waiting (r : Request) (slot : Slot) (e : PumpEvent) (reply : Oneshot)
  | forwarding (slot : Slot) (e : PumpEvent) (bucket : TokenBucket)
  deriving DecidableEq, Repr

namespace Consumer

/-- The event in the loop. -/
def current : Consumer → List (Slot × PumpEvent)
  | recv => []
  | sending _ slot e | waiting _ slot e _ | forwarding slot e _ => [(slot, e)]

/-- The actor answers, or drops the channel. -/
def receive (answer : Option LaunchpadAnswer) : Consumer → Consumer
  | waiting r slot e .pending => waiting r slot e (answer.elim .dropped .sent)
  | c => c

/-- The loop goes on after a reply. -/
def resume : Consumer → Option Consumer
  | waiting .event slot e (.sent .finished) => some (sending .tokenExists slot e)
  | waiting .tokenExists slot e (.sent (.tokenExists true)) => some (sending .getBucket slot e)
  | waiting .tokenExists _ _ (.sent (.tokenExists false)) => some recv
  | waiting .getBucket slot e (.sent (.bucket b)) => some (forwarding slot e b)
  | waiting _ _ _ .dropped => some recv
  | _ => none

end Consumer

inductive Sender
  | pipeline
  | client
  deriving DecidableEq, Repr

structure PumpPipeline where
  /-- What the feed has not delivered yet. -/
  feed : List (Slot × PumpEvent)
  mailbox : List (Sender × PumpLaunchpadCommand)
  domain : PumpLaunchpadStorage
  consumer : Consumer
  /-- What the loop has sent on. -/
  general : List (Slot × Action × TokenBucket)

inductive PipelineStep
  | recv
  | request
  | listen
  | resume
  | forward
  | client (c : PumpLaunchpadCommand)
  deriving DecidableEq, Repr

/-- A command that changes no bucket. -/
def PumpLaunchpadCommand.isQuery : PumpLaunchpadCommand → Bool
  | .event _ _ => false
  | .getMint _ | .getBucket _ | .tokenExists _ => true

/-- A launch with the other mayhem flag. -/
def PumpEvent.filtered (mayhem : Bool) : PumpEvent → Bool
  | .create e => e.isMayhemMode != mayhem
  | .trade _ => false

namespace PumpPipeline

def mailboxCapacity : ℕ := 4096

def init (sniperThreshold : UInt64) (es : List (Slot × PumpEvent)) : PumpPipeline where
  feed := es
  mailbox := []
  domain := .new sniperThreshold
  consumer := .recv
  general := []

def step (poolPda : Address → Address) (mayhem : Bool) (s : PumpPipeline) :
    PipelineStep → Option PumpPipeline
  | .recv =>
    match s.consumer, s.feed with
    | .recv, (slot, e) :: rest => some { s with
        feed := rest
        consumer := if e.filtered mayhem then .recv else .sending .event slot e }
    | _, _ => none
  | .request =>
    match s.consumer with
    | .sending r slot e =>
      if s.mailbox.length < mailboxCapacity then some { s with
        mailbox := s.mailbox ++ [(.pipeline, r.command slot e)]
        consumer := .waiting r slot e .pending }
      else none
    | _ => none
  | .listen =>
    match s.mailbox with
    | [] => none
    | (sender, command) :: rest =>
      let r := s.domain.listen poolPda command
      some { s with
        mailbox := rest
        domain := r.1
        consumer := if sender = .pipeline then s.consumer.receive r.2 else s.consumer }
  | .resume => s.consumer.resume.map fun consumer => { s with consumer := consumer }
  | .forward =>
    match s.consumer with
    | .forwarding slot e bucket => some { s with
        consumer := .recv
        general := s.general ++ [(slot, e.toAction, bucket)] }
    | _ => none
  | .client c =>
    if c.isQuery ∧ s.mailbox.length < mailboxCapacity then some { s with
      mailbox := s.mailbox ++ [(.client, c)] }
    else none

def machine (poolPda : Address → Address) (sniperThreshold : UInt64) (mayhem : Bool) :
    Machine PumpPipeline PipelineStep where
  init s := ∃ es, s = .init sniperThreshold es
  step := step poolPda mayhem

end PumpPipeline

end Loggaper
