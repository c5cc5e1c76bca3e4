import Mathlib.Logic.Function.Basic
import DataFeed.Foundation.Linearizable
import DataFeed.Foundation.Transition
import DataFeed.Venue.Adapter

/-! # A venue's manager and its threads

A manager's callers, its network thread, its parser thread and its resubscriber run
at the same time. A caller's locked sections are programs: a `Section` is what the
holder of the life cycle lock does next, and each step is one that the other
threads can tell from the next. What only holders of the lock see is done in one
step: the connected flag is set as the feed connects, and the requests of a new
connection go out together.

A call brings along what the world will answer it: what the venue says about the
pair's precision, whether its receiver can be built, and the time its subscription
begins. Allocation does not fail.
-/

namespace DataFeed.Venue

open Foundation L2 Net DataFeed.Core

/-- The one subscriber to a pair. -/
structure Subscription where
  book : BookSpec
  startTimeNs : Int64
  receiver : ReceiverId

/-- A manager's subscriptions, in the order of their ids. -/
abbrev Subscriptions := OrderedMap SubscriptionId Subscription (· < ·)

/-- What a caller of `Subscribe` asks for, and what it will be answered. -/
structure SubscribeRequest where
  id : SubscriptionId
  book : BookSpec
  /-- What `FetchPrecision` answers. -/
  precision : Except Error PairPrecision
  /-- Builds the receiver, or throws. -/
  makeReceiver : PairPrecision → Except String Unit
  /-- The clock as the subscription is recorded. -/
  nowNs : Int64

/-- A public method, with its arguments. -/
inductive Operation where
  | connect
  | disconnect
  | healthy
  | subscribe (request : SubscribeRequest)
  | unsubscribe (id : SubscriptionId)
  | list

/-- How a call ends. -/
inductive Outcome where
  | done
  | healthy (value : Bool)
  | subscribed (id : SubscriptionId)
  | failed (error : Error)
  | listed (subscriptions : List SubscriptionInfo)
  | thrown (what : String)
  deriving DecidableEq, Repr

/-- What the holder of the life cycle lock does next. The steps of
`DisconnectLocked` are shared by `Disconnect` and by `Connect`, which then goes on
to `reconnect`. -/
inductive Section where
  | connect
  | disconnectFeed (reconnect : Bool)
  | joinFeed (reconnect : Bool)
  | stopParser (reconnect : Bool)
  | joinParser (reconnect : Bool)
  | endConnection (reconnect : Bool)
  | startParser
  | connectFeed
  | stopRefused (what : String)
  | joinRefused (what : String)
  | sendRequests
  | healthy
  | resolveFirst (request : SubscribeRequest)
  | resolveAgain (request : SubscribeRequest) (precision : PairPrecision)
  | attach (request : SubscribeRequest) (precision : PairPrecision) (receiver : ReceiverId)
  | sendSubscribe (request : SubscribeRequest)
  | unsubscribe (id : SubscriptionId)
  | sendUnsubscribe (id : SubscriptionId) (book : BookSpec)
  | erase (id : SubscriptionId)
  | list
  | resubscribe (symbol : String)
  | resendSubscribe (id : SubscriptionId) (book : BookSpec)

/-- Where a call is. -/
inductive CallState where
  /-- Waits for the life cycle lock. -/
  | waiting (operation : Operation)
  /-- Holds the lock. -/
  | inside
  /-- Is in its round trip to the venue, without the lock. -/
  | fetching (request : SubscribeRequest)
  /-- Waits for the lock again. -/
  | fetched (request : SubscribeRequest) (precision : PairPrecision)
  /-- Is about to return. -/
  | ending (outcome : Outcome)
  /-- Has returned. -/
  | returned

/-- What an operation does first under the life cycle lock. -/
def Operation.entry : Operation → Section
  | .connect => .connect
  | .disconnect => .disconnectFeed false
  | .healthy => .healthy
  | .subscribe request => .resolveFirst request
  | .unsubscribe id => .unsubscribe id
  | .list => .list

/-- What a call waits to do under the lock, if it does. -/
def CallState.entry? : CallState → Option Section
  | .waiting operation => some operation.entry
  | .fetched request precision => some (.resolveAgain request precision)
  | .inside | .fetching _ | .ending _ | .returned => none

/-- Who may hold the life cycle lock. -/
inductive Holder where
  | call (call : Nat)
  | resubscriber
  deriving DecidableEq, Repr

/-- Where a parser's thread is. -/
inductive ParserThread (Decoder : Type) where
  /-- Waits for a frame, or for the stop request. -/
  | waiting (decoder : Decoder)
  /-- Decodes the frame at the head of the queue, under the routes lock. -/
  | decoding (rest : Decoding Decoder)
  /-- Has returned, and is to be joined. -/
  | ended

/-- The threads that stream a venue's books, and what they share. -/
structure Pipeline (Decoder : Type) where
  /-- One of the two threads died. -/
  failed : Bool
  /-- The frames the parser has not finished, each with the number of the connection
  it was read on. -/
  frames : List (Nat × RawFrame)
  feed : WebsocketFeed
  parserThread : Option (ParserThread Decoder)
  parserStop : Bool

/-- Where the resubscriber is. -/
inductive ResubscriberThread where
  | waiting
  /-- Has taken a pair and waits out its interval. -/
  | taken (symbol : String)
  /-- Runs `Resubscribe`, which was called at `began`. -/
  | resubscribing (symbol : String) (began : Nat)
  /-- `Resubscribe` has returned. -/
  | returned (symbol : String)
  deriving DecidableEq, Repr

/-- A run of `Resubscribe`, with the clock when it was called and when it returned. -/
structure ResubscribeRun where
  symbol : String
  began : Nat
  ended : Nat
  deriving DecidableEq, Repr

/-- The pairs to be resubscribed, and the thread that does so. -/
structure Resubscriber where
  pending : List String
  thread : ResubscriberThread
  /-- When each pair was last resubscribed. -/
  last : OrderedMap String Nat (· < ·)
  /-- The steady clock, in nanoseconds. -/
  now : Nat
  /-- What it has done so far. -/
  runs : List ResubscribeRun

/-- One venue's manager. -/
structure L2Manager (Decoder : Type) where
  subscriptions : Subscriptions
  connected : Bool
  parser : L2Parser
  pipeline : Pipeline Decoder
  resubscriber : Resubscriber
  lock : Option (Holder × Section)
  calls : Nat → Option CallState
  /-- The name of the receiver that is built next. -/
  nextReceiver : ReceiverId
  /-- What has happened in the pipeline. -/
  log : List Event
  /-- What its callers have seen. -/
  history : List (CallEvent Operation Outcome)

namespace Resubscriber

/-- The least time between two resubscribes of one pair. -/
def minResubscribeInterval : Nat := 1000000000

def init : Resubscriber := ⟨[], .waiting, .empty, 0, []⟩

/-- Queues a pair, once. -/
def request (resubscriber : Resubscriber) (symbol : String) : Resubscriber :=
  if symbol ∈ resubscriber.pending then resubscriber
  else { resubscriber with pending := resubscriber.pending ++ [symbol] }

/-- The pair's interval is over. -/
def due (resubscriber : Resubscriber) (symbol : String) : Bool :=
  match resubscriber.last.find? symbol with
  | none => true
  | some last => last + minResubscribeInterval ≤ resubscriber.now

/-- The next step of the thread, unless it waits for something. -/
def step (resubscriber : Resubscriber) : Option Resubscriber :=
  match resubscriber.thread with
  | .waiting =>
      match resubscriber.pending with
      | [] => none
      | symbol :: rest => some { resubscriber with pending := rest, thread := .taken symbol }
  | .taken symbol =>
      if resubscriber.due symbol then
        some { resubscriber with thread := .resubscribing symbol resubscriber.now }
      else none
  | .resubscribing _ _ => none
  | .returned symbol =>
      some { resubscriber with
        thread := .waiting
        last := resubscriber.last.insert symbol resubscriber.now }

/-- `Resubscribe` returns. -/
def finish (resubscriber : Resubscriber) : Resubscriber :=
  match resubscriber.thread with
  | .resubscribing symbol began =>
      { resubscriber with
        thread := .returned symbol
        runs := resubscriber.runs ++ [⟨symbol, began, resubscriber.now⟩] }
  | .waiting | .taken _ | .returned _ => resubscriber

end Resubscriber

/-- What a network thread does next. -/
inductive NetworkStep where
  | read (frame : RawFrame)
  | push
  | giveUp
  | stop
  | fail
  deriving DecidableEq, Repr

namespace Pipeline

variable {Decoder : Type} (pipeline : Pipeline Decoder)

def init : Pipeline Decoder := ⟨false, [], .init, none, false⟩

/-- The parser's thread holds the routes lock. -/
def decoding : Bool :=
  match pipeline.parserThread with
  | some (.decoding _) => true
  | some (.waiting _) | some .ended | none => false

def setNetworkThread (thread : NetworkThread) : Pipeline Decoder :=
  { pipeline with feed := { pipeline.feed with thread := some thread } }

/-- A step of the network thread. -/
def networkStep : NetworkStep → Option (Pipeline Decoder)
  | .read frame =>
      match pipeline.feed.thread with
      | some .reading => some (pipeline.setNetworkThread (.pushing frame))
      | _ => none
  | .push =>
      match pipeline.feed.thread with
      | some (.pushing frame) =>
          if pipeline.frames.length < maxQueuedFrames then
            some { pipeline.setNetworkThread .reading with
              frames := pipeline.frames ++ [(pipeline.feed.number, frame)] }
          else none
      | _ => none
  | .giveUp =>
      match pipeline.feed.thread with
      | some (.pushing _) =>
          if pipeline.failed then some (pipeline.setNetworkThread .reading) else none
      | _ => none
  | .stop =>
      match pipeline.feed.thread with
      | some .reading =>
          if pipeline.feed.stop then some (pipeline.setNetworkThread .ended) else none
      | _ => none
  | .fail =>
      match pipeline.feed.thread with
      | some .reading => some { pipeline.setNetworkThread .ended with failed := true }
      | _ => none

/-- The parser's thread has been told to stop. -/
def requestStop : Pipeline Decoder := { pipeline with parserStop := true }

/-- Waits for the parser's thread, if there is one. -/
def joinParser : Option (Pipeline Decoder) :=
  match pipeline.parserThread with
  | none | some .ended => some { pipeline with parserThread := none }
  | some (.waiting _) | some (.decoding _) => none

end Pipeline

/-- The number of the connection that was started last. -/
def connectionNumber (log : List Event) : Nat := log.countP fun event => event = .started

/-- The pairs the checksum check's handler is told. -/
def mismatches (events : List Event) : List String :=
  events.filterMap fun event =>
    match event with
    | .mismatched symbol => some symbol
    | _ => none

/-- What a locked section does after a step. -/
inductive Next where
  | goOn (next : Section)
  /-- Lets go of the lock; a call is then in the given state. -/
  | release (state : CallState)

namespace L2Manager

variable {Decoder : Type} (adapter : Adapter Decoder)

/-- A manager that has just been built. -/
def init : L2Manager Decoder where
  subscriptions := .empty
  connected := false
  parser := .init adapter.bookChecksum
  pipeline := .init
  resubscriber := .init
  lock := none
  calls := fun _ => none
  nextReceiver := 0
  log := []
  history := []

/-- The subscription to a pair. -/
def findSymbol (subscriptions : Subscriptions) (symbol : String) :
    Option (SubscriptionId × Subscription) :=
  subscriptions.entries.find? fun entry => entry.2.book.symbol = symbol

/-- How `Subscribe` ends early when the id or the pair are taken, or nothing if the
subscription may go ahead. -/
def resolveTaken (subscriptions : Subscriptions) (id : SubscriptionId) (book : BookSpec) :
    Option Outcome :=
  if (subscriptions.find? id).isSome then
    some (.thrown ("Subscription id " ++ toString id ++ " is already in use"))
  else
    match findSymbol subscriptions book.symbol with
    | none => none
    | some (taken, existing) =>
        if sinkOf id = some .record ∧ sinkOf taken = some .record ∧
            existing.book.depth = book.depth then
          some (.subscribed taken)
        else
          some (.failed
            { code := .symbolInUse
              detail := book.symbol ++ " is already subscribed to by subscription " ++
                toString taken ++ " at depth " ++ toString existing.book.depth })

/-- The subscriptions, as `List` returns them. -/
def infos (subscriptions : Subscriptions) : List SubscriptionInfo :=
  subscriptions.entries.map fun entry => ⟨entry.1, entry.2.book, entry.2.startTimeNs⟩

variable (manager : L2Manager Decoder)

/-- Sends a request for a book to the venue, while connected. -/
def send (request : BookRequest) (book : BookSpec) : L2Manager Decoder :=
  if manager.connected then
    { manager with
      pipeline := { manager.pipeline with
        feed := manager.pipeline.feed.send (adapter.makeBookRequest request book) }
      log := manager.log ++ [.sent request book] }
  else manager

/-- What a new connection sends: the venue's requests, and every subscription. -/
def sendAll : L2Manager Decoder :=
  (manager.subscriptions.entries.map fun entry => entry.2.book).foldl
    (fun manager book => manager.send adapter .subscribe book)
    { manager with
      pipeline := { manager.pipeline with
        feed := adapter.connectRequests.foldl WebsocketFeed.send manager.pipeline.feed } }

/-- The end of a connection: what is left of its frames is stale, and if it was up,
every receiver is told. -/
def endConnection : L2Manager Decoder :=
  { manager with
    connected := false
    pipeline := { manager.pipeline with frames := [] }
    log := manager.log ++
      if manager.connected then
        manager.subscriptions.entries.map fun entry => .gapped entry.2.receiver .disconnected
      else [] }

/-- A new connection's status, routes, decoder and parser thread. -/
def startParser : L2Manager Decoder :=
  { manager with
    parser := manager.parser.start.1
    log := manager.log ++ manager.parser.start.2
    pipeline := { manager.pipeline with
      failed := false
      parserThread := some (.waiting adapter.makeDecoder)
      parserStop := false } }

/-- A step of a locked section, unless it waits for something. -/
def sectionStep : Section → Option (L2Manager Decoder × Next)
  | .connect =>
      if manager.connected ∧ ¬ manager.pipeline.failed then
        some (manager, .release (.ending .done))
      else some (manager, .goOn (.disconnectFeed true))
  | .disconnectFeed reconnect =>
      some ({ manager with pipeline := { manager.pipeline with
        feed := manager.pipeline.feed.requestStop } }, .goOn (.joinFeed reconnect))
  | .joinFeed reconnect =>
      manager.pipeline.feed.join.map fun feed =>
        ({ manager with pipeline := { manager.pipeline with feed := feed } },
          .goOn (.stopParser reconnect))
  | .stopParser reconnect =>
      some ({ manager with pipeline := manager.pipeline.requestStop },
        .goOn (.joinParser reconnect))
  | .joinParser reconnect =>
      manager.pipeline.joinParser.map fun pipeline =>
        ({ manager with pipeline := pipeline }, .goOn (.endConnection reconnect))
  | .endConnection reconnect =>
      some (manager.endConnection,
        if reconnect then .goOn .startParser else .release (.ending .done))
  | .startParser => some (manager.startParser adapter, .goOn .connectFeed)
  | .connectFeed =>
      some ({ manager with
          connected := true
          pipeline := { manager.pipeline with
            feed := .connect (connectionNumber manager.log) } },
        .goOn .sendRequests)
  | .stopRefused what =>
      some ({ manager with pipeline := manager.pipeline.requestStop }, .goOn (.joinRefused what))
  | .joinRefused what =>
      manager.pipeline.joinParser.map fun pipeline =>
        ({ manager with pipeline := pipeline }, .release (.ending (.thrown what)))
  | .sendRequests => some (manager.sendAll adapter, .release (.ending .done))
  | .healthy =>
      some (manager,
        .release (.ending (.healthy (manager.connected && !manager.pipeline.failed))))
  | .resolveFirst request =>
      match resolveTaken manager.subscriptions request.id request.book with
      | some outcome => some (manager, .release (.ending outcome))
      | none => some (manager, .release (.fetching request))
  | .resolveAgain request precision =>
      match resolveTaken manager.subscriptions request.id request.book with
      | some outcome => some (manager, .release (.ending outcome))
      | none =>
          match request.makeReceiver precision with
          | .error what => some (manager, .release (.ending (.thrown what)))
          | .ok () =>
              some ({ manager with
                  subscriptions := manager.subscriptions.insert request.id
                    ⟨request.book, request.nowNs, manager.nextReceiver⟩
                  nextReceiver := manager.nextReceiver + 1 },
                .goOn (.attach request precision manager.nextReceiver))
  | .attach request precision receiver =>
      if manager.pipeline.decoding then none
      else
        match manager.parser.attach request.book.symbol precision request.book.depth receiver with
        | .error what =>
            some ({ manager with subscriptions := manager.subscriptions.erase request.id },
              .release (.ending (.thrown what)))
        | .ok (parser, events) =>
            some ({ manager with parser := parser, log := manager.log ++ events },
              .goOn (.sendSubscribe request))
  | .sendSubscribe request =>
      some (manager.send adapter .subscribe request.book,
        .release (.ending (.subscribed request.id)))
  | .unsubscribe id =>
      match manager.subscriptions.find? id with
      | none =>
          some (manager, .release (.ending (.failed
            { code := .unknownId, detail := "No subscription " ++ toString id })))
      | some subscription =>
          if manager.pipeline.decoding then none
          else
            some ({ manager with
                parser := (manager.parser.detach subscription.book.symbol).1
                log := manager.log ++ (manager.parser.detach subscription.book.symbol).2 },
              .goOn (.sendUnsubscribe id subscription.book))
  | .sendUnsubscribe id book => some (manager.send adapter .unsubscribe book, .goOn (.erase id))
  | .erase id =>
      some ({ manager with subscriptions := manager.subscriptions.erase id },
        .release (.ending .done))
  | .list => some (manager, .release (.ending (.listed (infos manager.subscriptions))))
  | .resubscribe symbol =>
      match findSymbol manager.subscriptions symbol with
      | none => some (manager, .release (.ending .done))
      | some (id, subscription) =>
          if manager.connected then
            some (manager.send adapter .unsubscribe subscription.book,
              .goOn (.resendSubscribe id subscription.book))
          else some (manager, .release (.ending .done))
  | .resendSubscribe _ book =>
      some (manager.send adapter .subscribe book, .release (.ending .done))

/-- What comes of the lock, and of its holder, after a step of a section. -/
def settle (holder : Holder) : Next → L2Manager Decoder
  | .goOn next => { manager with lock := some (holder, next) }
  | .release state =>
      match holder with
      | .call call =>
          { manager with lock := none, calls := Function.update manager.calls call (some state) }
      | .resubscriber =>
          { manager with lock := none, resubscriber := manager.resubscriber.finish }

/-- The next step of the parser's thread, unless it waits for something. A frame leaves
the queue once it is decoded. -/
def parserStep : Option (L2Manager Decoder) :=
  match manager.pipeline.parserThread with
  | some (.waiting decoder) =>
      match manager.pipeline.frames with
      | (connection, frame) :: _ =>
          some { manager with
            pipeline := { manager.pipeline with
              parserThread := some (.decoding (adapter.decode decoder frame)) }
            log := manager.log ++ [.decoded connection] }
      | [] =>
          if manager.pipeline.parserStop then
            some { manager with
              pipeline := { manager.pipeline with parserThread := some .ended } }
          else none
  | some (.decoding (.find symbol type next)) =>
      some { manager with
        pipeline := { manager.pipeline with
          parserThread := some (.decoding (next (manager.parser.find symbol type))) } }
  | some (.decoding (.emit message next)) =>
      some { manager with
        parser := (manager.parser.emit message).1
        pipeline := { manager.pipeline with parserThread := some (.decoding next) }
        resubscriber :=
          (mismatches (manager.parser.emit message).2).foldl Resubscriber.request
            manager.resubscriber
        log := manager.log ++ (manager.parser.emit message).2 }
  | some (.decoding (.done decoder)) =>
      some { manager with
        pipeline := { manager.pipeline with
          frames := manager.pipeline.frames.tail
          parserThread := some (.waiting decoder) } }
  | some (.decoding (.fail _)) =>
      some { manager with
        pipeline := { manager.pipeline with failed := true, parserThread := some .ended } }
  | some .ended | none => none

/-- Where a call begins. -/
def begin : Operation → CallState
  | .subscribe request =>
      match adapter.checkBook request.book with
      | .error error => .ending (.failed error)
      | .ok () => .waiting (.subscribe request)
  | operation => .waiting operation

/-- Who takes a step, and what the world does in it. -/
inductive Action where
  | invoke (call : Nat) (operation : Operation)
  | acquire (holder : Holder)
  /-- The holder of the lock does what is next. -/
  | run
  /-- The feed's attempt to connect throws. -/
  | refuse (what : String)
  /-- The venue answers a call's round trip. -/
  | fetch (call : Nat)
  | respond (call : Nat)
  | network (step : NetworkStep)
  | parse
  | resubscribe
  | tick (elapsed : Nat)

/-- What a step does, if it is possible. -/
def step : Action → Option (L2Manager Decoder)
  | .invoke call operation =>
      match manager.calls call with
      | some _ => none
      | none =>
          some { manager with
            calls := Function.update manager.calls call (some (begin adapter operation))
            history := manager.history ++ [.invoke call operation] }
  | .acquire (.call call) =>
      match manager.lock, (manager.calls call).bind CallState.entry? with
      | none, some entry =>
          some { manager with
            lock := some (.call call, entry)
            calls := Function.update manager.calls call (some .inside) }
      | _, _ => none
  | .acquire .resubscriber =>
      match manager.lock, manager.resubscriber.thread with
      | none, .resubscribing symbol _ =>
          some { manager with lock := some (.resubscriber, .resubscribe symbol) }
      | _, _ => none
  | .run =>
      match manager.lock with
      | none => none
      | some (holder, current) =>
          (manager.sectionStep adapter current).map fun stepped =>
            stepped.1.settle holder stepped.2
  | .refuse what =>
      match manager.lock with
      | some (holder, .connectFeed) =>
          some { manager with
            pipeline := { manager.pipeline with feed := .refused }
            lock := some (holder, .stopRefused what) }
      | _ => none
  | .fetch call =>
      match manager.calls call with
      | some (.fetching request) =>
          some { manager with
            calls := Function.update manager.calls call (some
              (match request.precision with
                | .error error => .ending (.failed error)
                | .ok precision => .fetched request precision)) }
      | _ => none
  | .respond call =>
      match manager.calls call with
      | some (.ending outcome) =>
          some { manager with
            calls := Function.update manager.calls call (some .returned)
            history := manager.history ++ [.respond call outcome] }
      | _ => none
  | .network step =>
      (manager.pipeline.networkStep step).map fun pipeline =>
        { manager with pipeline := pipeline }
  | .parse => manager.parserStep adapter
  | .resubscribe =>
      manager.resubscriber.step.map fun resubscriber =>
        { manager with resubscriber := resubscriber }
  | .tick elapsed =>
      some { manager with resubscriber := { manager.resubscriber with
        now := manager.resubscriber.now + elapsed } }

/-- A manager, with all that its callers, its threads and the world can do. -/
def system : System (L2Manager Decoder) Action where
  init := init adapter
  step := step adapter

end L2Manager

end DataFeed.Venue
