import Moltbunker.Lib.Path

/-!
# The event watcher

`internal/payment/event_watcher.go` keeps six subscriptions to logs of the chain. Each runs in its
own goroutine: it backfills the logs above the shared `lastBlock`, subscribes, passes the logs that
it receives to its handler, and starts again when the subscription drops. `lastBlock` is advanced by
whichever subscription sees a log of a later block.

A step is one access of a goroutine to `lastBlock`, one answer of the node or one call of a handler,
so that a run is any interleaving of the six; the comparison with `lastBlock` and the store that
follows it are two steps, as they are in the source. Blocks are mined whole. A subscription that is
live receives the logs of its filter in order; when it drops, the logs that are still in its channel
are lost.

`Covered` says which logs a subscription has passed on, or is about to; `PassedOn` is what the
watcher is there for, and `WatchGuard` what it takes (`Delivery.lean`).
-/

namespace Moltbunker.Payment.EventWatcher

/-! ## Logs and subscriptions -/

/-- The contract and the first topic of a log, as far as the filters tell them apart. -/
inductive Event where
  | staked
  | unstaked
  | reservationCreated
  | paymentReleased
  | refunded
  | reservationFinalized
  | slashed
  | other
  deriving DecidableEq

/-- `types.Log`: the block, the position in it and the event. -/
structure Log where
  blockNumber : ℕ
  index : ℕ
  event : Event
  deriving DecidableEq

/-- The six subscriptions that `Start` launches. -/
inductive Subscription where
  | stake
  | escrowCreated
  | paymentReleased
  | refunded
  | finalized
  | slash
  deriving DecidableEq

instance : Fintype Subscription where
  elems := {.stake, .escrowCreated, .paymentReleased, .refunded, .finalized, .slash}
  complete i := by cases i <;> decide

/-- `ethereum.FilterQuery`: the events of a subscription. -/
def Subscription.query : Subscription → List Event
  | .stake => [.staked, .unstaked]
  | .escrowCreated => [.reservationCreated]
  | .paymentReleased => [.paymentReleased]
  | .refunded => [.refunded]
  | .finalized => [.reservationFinalized]
  | .slash => [.slashed]

/-- The log passes the filter of the subscription. -/
def Subscription.Matches (i : Subscription) (log : Log) : Prop := log.event ∈ i.query

instance (i : Subscription) (log : Log) : Decidable (i.Matches log) :=
  inferInstanceAs (Decidable (_ ∈ _))

/-- `eventBackfillBlocks` -/
def eventBackfillBlocks : ℕ := 100

/-- The block that a backfill reads from. -/
def fromBlock (last : ℕ) : ℕ :=
  if last > eventBackfillBlocks then last - eventBackfillBlocks else last

/-- Where a goroutine is in `subscribeWithReconnect`. A backfill carries the value of `lastBlock`
that it loaded and the head `upTo` at which the node answered. -/
inductive Phase where
  /-- at the head of the loop, before the backfill -/
  | connecting
  /-- `backfillEvents` has loaded `lastBlock` -/
  | filtering (last : ℕ)
  /-- `FilterLogs` has answered, and `rest` is still to be gone through -/
  | backfilling (last upTo : ℕ) (rest : List Log)
  /-- a backfilled log is of a later block, and `lastBlock` is about to be set to it -/
  | storing (last upTo : ℕ) (rest : List Log) (block : ℕ)
  /-- the backfill is over, and `SubscribeFilterLogs` is called -/
  | subscribing (upTo : ℕ)
  /-- in `processEvents`, with the logs that are in the channel -/
  | live (inbox : List Log)
  /-- a received log is of a later block, and `lastBlock` is about to be set to it -/
  | liveStoring (log : Log) (inbox : List Log)
  /-- a received log is about to be passed to the handler -/
  | liveHandling (log : Log) (inbox : List Log)
  deriving DecidableEq

namespace Phase

/-- Logs of a new block arrive in the channel of a live subscription. -/
def push (logs : List Log) : Phase → Phase
  | .live inbox => .live (inbox ++ logs)
  | .liveStoring log inbox => .liveStoring log (inbox ++ logs)
  | .liveHandling log inbox => .liveHandling log (inbox ++ logs)
  | p => p

/-- The backfilled logs that are still to be passed to the handler. -/
def due : Phase → List Log
  | .backfilling last _ rest => rest.filter fun log => log.blockNumber > last
  | .storing last _ rest _ => rest.filter fun log => log.blockNumber > last
  | _ => []

/-- The goroutine will load `lastBlock` before it is live again. -/
def waits : Phase → Bool
  | .connecting => true
  | .backfilling _ _ _ => true
  | .storing _ _ _ _ => true
  | .subscribing _ => true
  | _ => false

/-- The block up to which a backfill reads: its `last` until the node answers. -/
def mark : Phase → Option ℕ
  | .filtering last => some last
  | .backfilling _ upTo _ => some upTo
  | .storing _ upTo _ _ => some upTo
  | .subscribing upTo => some upTo
  | _ => none

/-- The logs that a live subscription holds. -/
def held : Phase → List Log
  | .live inbox => inbox
  | .liveStoring log inbox => log :: inbox
  | .liveHandling log inbox => log :: inbox
  | _ => []

end Phase

/-! ## The watcher -/

/-- The chain, the shared `lastBlock` and the six goroutines. -/
structure Watcher where
  /-- the head when the watcher was started -/
  start : ℕ
  head : ℕ
  chain : List Log
  lastBlock : ℕ
  phase : Subscription → Phase
  /-- what was passed to the handler of each subscription -/
  handled : Subscription → List Log

/-- What can happen next. -/
inductive Action where
  /-- a block with logs of these events is mined -/
  | mine (events : List Event)
  /-- `backfillEvents` loads `lastBlock` -/
  | load (i : Subscription)
  /-- `FilterLogs` answers -/
  | filterLogs (i : Subscription)
  /-- `FilterLogs` fails -/
  | filterFails (i : Subscription)
  /-- the loop of `backfillEvents` turns, or ends -/
  | backfill (i : Subscription)
  /-- `lastBlock.Store` -/
  | store (i : Subscription)
  /-- `SubscribeFilterLogs` returns, and the subscription is live -/
  | subscribed (i : Subscription)
  /-- `SubscribeFilterLogs` fails -/
  | subscribeFails (i : Subscription)
  /-- `processEvents` receives a log and compares its block with `lastBlock` -/
  | receive (i : Subscription)
  /-- `processEvents` calls the handler -/
  | handle (i : Subscription)
  /-- the subscription drops -/
  | drop (i : Subscription)
  deriving DecidableEq

/-- The logs of a block. -/
def blockLogs (block : ℕ) (events : List Event) : List Log :=
  events.zipIdx.map fun (event, index) => ⟨block, index, event⟩

namespace Watcher

/-- The goroutine of `i` goes on. -/
def setPhase (w : Watcher) (i : Subscription) (p : Phase) : Watcher :=
  { w with phase := Function.update w.phase i p }

/-- The log is passed to the handler of `i`. -/
def pass (w : Watcher) (i : Subscription) (log : Log) : Watcher :=
  { w with handled := Function.update w.handled i (w.handled i ++ [log]) }

/-- The answer of `FilterLogs`: every log of the filter from `block` up to the head. -/
def matching (w : Watcher) (i : Subscription) (block : ℕ) : List Log :=
  w.chain.filter fun log => i.Matches log ∧ block ≤ log.blockNumber

/-- One step. -/
def next (w : Watcher) : Action → Option Watcher
  | .mine events =>
    let logs := blockLogs (w.head + 1) events
    some { w with
      head := w.head + 1
      chain := w.chain ++ logs
      phase := fun i => (w.phase i).push (logs.filter fun log => i.Matches log) }
  | .load i =>
    match w.phase i with
    | .connecting =>
      -- without a known block there is no backfill
      some (w.setPhase i (if w.lastBlock = 0 then .subscribing 0 else .filtering w.lastBlock))
    | _ => none
  | .filterLogs i =>
    match w.phase i with
    | .filtering last =>
      some (w.setPhase i (.backfilling last w.head (w.matching i (fromBlock last))))
    | _ => none
  | .filterFails i =>
    match w.phase i with
    | .filtering _ => some (w.setPhase i (.subscribing 0))
    | _ => none
  | .backfill i =>
    match w.phase i with
    | .backfilling _ upTo [] => some (w.setPhase i (.subscribing upTo))
    | .backfilling last upTo (log :: rest) =>
      if log.blockNumber > last then
        some ((w.pass i log).setPhase i
          (if log.blockNumber > w.lastBlock then .storing last upTo rest log.blockNumber
            else .backfilling last upTo rest))
      else some (w.setPhase i (.backfilling last upTo rest))
    | _ => none
  | .store i =>
    match w.phase i with
    | .storing last upTo rest block =>
      some ({ w with lastBlock := block }.setPhase i (.backfilling last upTo rest))
    | .liveStoring log inbox =>
      some ({ w with lastBlock := log.blockNumber }.setPhase i (.liveHandling log inbox))
    | _ => none
  | .subscribed i =>
    match w.phase i with
    | .subscribing _ => some (w.setPhase i (.live []))
    | _ => none
  | .subscribeFails i =>
    match w.phase i with
    | .subscribing _ => some (w.setPhase i .connecting)
    | _ => none
  | .receive i =>
    match w.phase i with
    | .live (log :: inbox) =>
      some (w.setPhase i
        (if log.blockNumber > w.lastBlock then .liveStoring log inbox
          else .liveHandling log inbox))
    | _ => none
  | .handle i =>
    match w.phase i with
    | .liveHandling log inbox => some ((w.pass i log).setPhase i (.live inbox))
    | _ => none
  | .drop i =>
    match w.phase i with
    | .live _ => some (w.setPhase i .connecting)
    | _ => none

end Watcher

/-- The step relation. -/
def Step (w : Watcher) (a : Action) (w' : Watcher) : Prop := w.next a = some w'

/-- `Start` has read the block number, or has failed to and left `lastBlock` at zero, and has
launched the goroutines. -/
structure Started (w : Watcher) : Prop where
  head : w.head = w.start
  lastBlock : w.lastBlock = w.start ∨ w.lastBlock = 0
  chain : ∀ log ∈ w.chain, log.blockNumber ≤ w.head
  phase : ∀ i, w.phase i = .connecting

/-! ## What is passed on -/

/-- Every log of the filter after the start and up to `block` was passed to the handler, or is about
to be. -/
def Covered (w : Watcher) (i : Subscription) (block : ℕ) : Prop :=
  ∀ log ∈ w.chain, i.Matches log → w.start < log.blockNumber → log.blockNumber ≤ block →
    log ∈ w.handled i ∨ log ∈ (w.phase i).due

instance (w : Watcher) (i : Subscription) (block : ℕ) : Decidable (Covered w i block) :=
  inferInstanceAs (Decidable (∀ log ∈ _, _))

/-- When a subscription goes live, every log of its filter after the start was passed to its
handler. -/
def PassedOn (w : Watcher) : Action → Prop
  | .subscribed i => ∀ log ∈ w.chain, i.Matches log → w.start < log.blockNumber →
      log ∈ w.handled i
  | _ => True

instance (w : Watcher) : (a : Action) → Decidable (PassedOn w a)
  | .subscribed i => inferInstanceAs (Decidable (∀ log ∈ w.chain, i.Matches log →
      w.start < log.blockNumber → log ∈ w.handled i))
  | .mine _ | .load _ | .filterLogs _ | .filterFails _ | .backfill _ | .store _
  | .subscribeFails _ | .receive _ | .handle _ | .drop _ => .isTrue trivial

/-- The block that a goroutine is about to store. -/
def Phase.toStore : Phase → Option ℕ
  | .storing _ _ _ block => some block
  | .liveStoring log _ => some log.blockNumber
  | _ => none

/-- * `FilterLogs` answers, and a backfill finds a block to start from;
* no goroutine moves `lastBlock` to or past a log that another one, which is not live, has missed;
* a subscription does not drop before it has passed on the logs that `lastBlock` has reached;
* no log of its filter is mined between the answer of `FilterLogs` and its subscription. -/
def WatchGuard (w : Watcher) : Action → Prop
  | .load _ => w.lastBlock ≠ 0
  | .filterFails _ => False
  | .store j => ∀ block ∈ (w.phase j).toStore, ∀ i, i ≠ j → (w.phase i).waits = true →
      Covered w i block
  | .drop i => Covered w i w.lastBlock
  | .subscribed i => ∀ upTo ∈ (w.phase i).mark, ∀ log ∈ w.chain, i.Matches log →
      log.blockNumber ≤ upTo
  | _ => True

instance (w : Watcher) : (a : Action) → Decidable (WatchGuard w a)
  | .load _ => inferInstanceAs (Decidable (_ ≠ _))
  | .filterFails _ => .isFalse id
  | .store j => inferInstanceAs (Decidable (∀ block ∈ (w.phase j).toStore, ∀ i, i ≠ j →
      (w.phase i).waits = true → Covered w i block))
  | .subscribed i => inferInstanceAs (Decidable (∀ upTo ∈ (w.phase i).mark, ∀ log ∈ w.chain,
      i.Matches log → log.blockNumber ≤ upTo))
  | .drop i => inferInstanceAs (Decidable (Covered w i w.lastBlock))
  | .mine _ | .filterLogs _ | .backfill _ | .subscribeFails _ | .receive _ | .handle _ =>
    .isTrue trivial

end Moltbunker.Payment.EventWatcher
