import DeviceHub.Delivery.Topics

/-
  Transports: where encoded commands are handed over.

  A channel holds a bounded number of messages until its
  receiver takes them.  A drained transport has a receiver
  that takes every message at once.  A scripted transport
  answers each message as it has been told to, and holds
  some until they are released.  A message that cannot be
  handed over yet waits, and the first to wait is the first
  to be served.

  Key definitions include:
    * `Outbound`
    * `Transport`
    * `Transport.offer`
    * `Transport.serve?`
-/

namespace DeviceHub

------------------------------------------------------------
-- Messages
------------------------------------------------------------

/- An encoded command. -/
inductive Encoded where
  | bytes (bs : List UInt8)
  | line (s : String)
  deriving DecidableEq, Inhabited

/- A message for a transport. -/
structure Outbound where
  encoded : Encoded
  params : Option TopicParams
  deriving DecidableEq, Inhabited

------------------------------------------------------------
-- Transports
------------------------------------------------------------

/- How a scripted transport answers one message. -/
inductive Reply where
  | accept
  | refuse (e : DeliveryError)
  | hold
  deriving DecidableEq, Inhabited, Repr

/- The replies of a scripted transport. -/
structure Script where
  replies : List Reply
  startError : Option DeliveryError
  stopError : Option DeliveryError
  deriving DecidableEq, Inhabited, Repr

/- What decides whether a message is handed over. -/
inductive Transport.Mode where
  | channel (capacity : Nat) (isOpen : Bool)
  | drained
  | scripted (script : Script) (releases : Nat)
  deriving DecidableEq, Inhabited, Repr

/-
  A transport: its mode, the messages handed over and not
  yet taken, and those that wait, each under a ticket.
-/
structure Transport where
  mode : Transport.Mode
  queue : List Outbound
  waiting : List (Nat × Outbound)
  deriving DecidableEq, Inhabited

/- The answer to a message that is offered. -/
inductive Offer where
  | done (result : Except DeliveryError Unit)
  | waits

namespace Transport

/- The most messages that a channel can have room for. -/
def maxCapacity : Nat :=
  Nat.pow 2 61 - 1

/- A channel; one without room still holds one message. -/
def channel
    (capacity : Nat) : Transport :=
  ⟨.channel (max capacity 1) true, [], []⟩

/- A transport whose receiver takes all at once. -/
def drained : Transport :=
  ⟨.drained, [], []⟩

/- A transport that answers as it is told. -/
def scripted
    (script : Script) : Transport :=
  ⟨.scripted script 0, [], []⟩

/- The error of a channel whose receiver is gone. -/
def closed : DeliveryError :=
  .channelClosed "transport receiver dropped"

/- Hand a message over. -/
def push
    (t : Transport)
    (m : Outbound) : Transport :=
  { t with queue := t.queue ++ [m] }

/- Let a message wait under a ticket. -/
def enqueue
    (t : Transport)
    (ticket : Nat)
    (m : Outbound) : Transport :=
  { t with waiting := t.waiting ++ [(ticket, m)] }

/- Offer a message under a ticket. -/
def offer
    (t : Transport)
    (ticket : Nat)
    (m : Outbound) : Offer × Transport :=
  match t.mode with
  | .channel capacity isOpen =>
      if !isOpen then
        (.done (.error closed), t)
      else if t.waiting.isEmpty &&
          t.queue.length < capacity then
        (.done (.ok ()), t.push m)
      else
        (.waits, t.enqueue ticket m)
  | .drained => (.done (.ok ()), t)
  | .scripted script releases =>
      let next := fun (replies : List Reply) (n : Nat) =>
        { t with mode :=
          .scripted { script with replies := replies } n }
      match script.replies with
      | [] => (.done (.ok ()), t.push m)
      | .accept :: rest =>
          (.done (.ok ()), (next rest releases).push m)
      | .refuse e :: rest =>
          (.done (.error e), next rest releases)
      | .hold :: rest =>
          if t.waiting.length < releases then
            (.done (.ok ()), (next rest (releases - 1)).push m)
          else
            (.waits, (next rest releases).enqueue ticket m)

/-
  Serve the message that has waited longest, if it can be
  served now.
-/
def serve?
    (t : Transport) :
    Option (Nat × Except DeliveryError Unit × Transport) :=
  match t.waiting with
  | [] => none
  | (ticket, m) :: rest =>
      let served := { t with waiting := rest }
      match t.mode with
      | .channel capacity isOpen =>
          if !isOpen then
            some (ticket, .error closed, served)
          else if t.queue.length < capacity then
            some (ticket, .ok (), served.push m)
          else
            none
      | .drained => some (ticket, .ok (), served)
      | .scripted script (n + 1) =>
          some (ticket, .ok (),
            { served with mode := .scripted script n }.push m)
      | .scripted _ 0 => none

/- Take messages out of the queue, oldest first. -/
def take
    (t : Transport)
    (limit : Option Nat) : List Outbound × Transport :=
  let n := limit.getD t.queue.length
  (t.queue.take n, { t with queue := t.queue.drop n })

/-
  Let the next held message go on.  Beyond one release for
  every message that waits, a single one is remembered.
-/
def release
    (t : Transport) : Transport :=
  match t.mode with
  | .scripted script n =>
      { t with mode :=
        .scripted script (min (n + 1) (t.waiting.length + 1)) }
  | _ => t

/- Drop the receiver of a channel with all it holds. -/
def closeReceiver
    (t : Transport) : Transport :=
  match t.mode with
  | .channel capacity _ =>
      { t with mode := .channel capacity false, queue := [] }
  | _ => t

/- Give a scripted transport a new script. -/
def withScript
    (t : Transport)
    (script : Script) : Transport :=
  match t.mode with
  | .scripted _ n => { t with mode := .scripted script n }
  | _ => t

/- Make ready for messages. -/
def start
    (t : Transport) : Except DeliveryError Unit :=
  match t.mode with
  | .scripted ⟨_, some e, _⟩ _ => .error e
  | _ => .ok ()

/- Stop taking messages. -/
def stop
    (t : Transport) : Except DeliveryError Unit :=
  match t.mode with
  | .scripted ⟨_, _, some e⟩ _ => .error e
  | _ => .ok ()

end Transport

end DeviceHub
