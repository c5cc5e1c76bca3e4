import Mathlib.Data.String.Basic
import DataFeed.L2.Book
import DataFeed.Venue.Event

/-! # The L2 parser

The parser routes the book changes a venue's decoder emits to the receiver
attached for their pair. A pair's updates are dropped until its snapshot, and
given a checksum the parser keeps each pair's book and checks it against the
checksum the venue sends with a change: a change that fails is dropped, the
receiver is told of the gap, and the pair waits for its next snapshot.

Every operation runs under the parser's routes lock, so it is a function on the
parser that also says what happened.
-/

namespace DataFeed.Venue

open Foundation L2 DataFeed.Core

/-- Where a pair's book changes go. -/
structure Route where
  precision : PairPrecision
  receiver : ReceiverId
  /-- Updates are dropped until the pair's snapshot arrives. -/
  awaitingSnapshot : Bool
  /-- Checked against the venue's checksum. -/
  book : Book

/-- The routing state of a venue's parser. -/
structure L2Parser where
  /-- The venue's checksum over a book, if it sends one. -/
  checksumCheck : Option (Book → UInt32)
  routes : OrderedMap String Route (· < ·)

namespace L2Parser

/-- A parser without routes. -/
def init (checksumCheck : Option (Book → UInt32)) : L2Parser := ⟨checksumCheck, .empty⟩

/-- The route a book change goes to, unless it is dropped: the pair has no
receiver, or it is an update before the pair's snapshot. -/
def findRoute (parser : L2Parser) (symbol : String) (type : MessageType) : Option Route :=
  match parser.routes.find? symbol with
  | some route => if type = .update ∧ route.awaitingSnapshot then none else some route
  | none => none

/-- The precision to scale a book change at, unless it would be dropped. -/
def find (parser : L2Parser) (symbol : String) (type : MessageType) : Option PairPrecision :=
  (parser.findRoute symbol type).map Route.precision

/-- Replaces a pair's route. -/
def setRoute (parser : L2Parser) (symbol : String) (route : Route) : L2Parser :=
  { parser with routes := parser.routes.insert symbol route }

/-- A new connection starts every pair over with a snapshot. -/
def start (parser : L2Parser) : L2Parser × List Event :=
  ({ parser with
      routes := parser.routes.mapValues fun route => { route with awaitingSnapshot := true } },
    [.started])

/-- Routes a pair's messages to a receiver, whose stream starts with the pair's
next snapshot. Throws if the pair already has one. -/
def attach (parser : L2Parser) (symbol : String) (precision : PairPrecision) (depth : UInt32)
    (receiver : ReceiverId) : Except String (L2Parser × List Event) :=
  match parser.routes.find? symbol with
  | some _ => .error (symbol ++ " already has a receiver")
  | none =>
      .ok (parser.setRoute symbol
          { precision := precision
            receiver := receiver
            awaitingSnapshot := true
            book := .ofDepth depth },
        [.attached symbol depth receiver])

/-- Stops routing a pair's messages. -/
def detach (parser : L2Parser) (symbol : String) : L2Parser × List Event :=
  ({ parser with routes := parser.routes.erase symbol }, [.detached symbol])

/-- Whether the book a change leaves fails the checksum sent with the change.
Zero means the venue sent none. -/
def fails (checksum : Book → UInt32) (message : Message) (book : Book) : Bool :=
  message.checksum ≠ 0 ∧ checksum book ≠ message.checksum

/-- Hands a book change the decoder found to its pair's receiver, or drops it. -/
def emit (parser : L2Parser) (message : Message) : L2Parser × List Event :=
  match parser.findRoute message.symbol message.type with
  | none => (parser, [.emitted message false])
  | some route =>
      let routed := { route with awaitingSnapshot := false }
      match parser.checksumCheck with
      | none =>
          (parser.setRoute message.symbol routed,
            [.emitted message false, .received route.receiver message])
      | some checksum =>
          let routed := { routed with book := routed.book.apply message }
          if fails checksum message routed.book then
            (parser.setRoute message.symbol
                { routed with awaitingSnapshot := true, book := routed.book.clear },
              [.emitted message true, .gapped route.receiver .resubscribing,
                .mismatched message.symbol])
          else
            (parser.setRoute message.symbol routed,
              [.emitted message false, .received route.receiver message])

/-- The route a delivered change leaves. -/
def deliveredRoute (parser : L2Parser) (route : Route) (message : Message) : Route :=
  { route with
    awaitingSnapshot := false
    book := if parser.checksumCheck.isSome then route.book.apply message else route.book }

/-- The route a change that fails its checksum leaves. -/
def refusedRoute (route : Route) : Route :=
  { route with awaitingSnapshot := true, book := route.book.clear }

/-- A change fails the check a parser makes, if it makes one, at a route. -/
def Refuses (parser : L2Parser) (route : Route) (message : Message) : Prop :=
  ∃ checksum, parser.checksumCheck = some checksum ∧
    fails checksum message (route.book.apply message)

/-- Everything `emit` can do: drop the change, refuse it for its checksum, or
deliver it. -/
theorem emit_cases (parser : L2Parser) (message : Message) :
    (parser.findRoute message.symbol message.type = none ∧
      parser.emit message = (parser, [.emitted message false])) ∨
    (∃ route, parser.findRoute message.symbol message.type = some route ∧
      parser.Refuses route message ∧
      parser.emit message = (parser.setRoute message.symbol (refusedRoute route),
        [.emitted message true, .gapped route.receiver .resubscribing,
          .mismatched message.symbol])) ∨
    (∃ route, parser.findRoute message.symbol message.type = some route ∧
      ¬ parser.Refuses route message ∧
      parser.emit message =
        (parser.setRoute message.symbol (parser.deliveredRoute route message),
          [.emitted message false, .received route.receiver message])) := by
  unfold emit Refuses deliveredRoute refusedRoute
  cases parser.findRoute message.symbol message.type with
  | none => exact Or.inl ⟨rfl, rfl⟩
  | some route =>
      right
      cases parser.checksumCheck with
      | none =>
          right
          refine ⟨route, rfl, ?_, rfl⟩
          rintro ⟨_, absent, _⟩
          exact Option.some_ne_none _ absent.symm
      | some checksum =>
          by_cases fail : fails checksum message (route.book.apply message)
          · left
            refine ⟨route, rfl, ⟨checksum, rfl, fail⟩, ?_⟩
            simp only [fail, ↓reduceIte, Book.clear, Book.depth_apply]
          · right
            refine ⟨route, rfl, ?_, ?_⟩
            · rintro ⟨_, same, failed⟩
              obtain rfl := Option.some.inj same
              exact fail failed
            · simp only [fail, Bool.false_eq_true, ↓reduceIte, Option.isSome_some]

/-- Setting a route leaves the checksum. -/
@[simp] theorem checksumCheck_setRoute (parser : L2Parser) (symbol : String) (route : Route) :
    (parser.setRoute symbol route).checksumCheck = parser.checksumCheck := rfl

/-- A lookup after a route was set finds it at its symbol. -/
theorem find?_setRoute (parser : L2Parser) (symbol query : String) (route : Route) :
    (parser.setRoute symbol route).routes.find? query =
      if query = symbol then some route else parser.routes.find? query :=
  parser.routes.find?_insert symbol query route

/-- A lookup after a detachment misses the symbol's route. -/
theorem find?_detach (parser : L2Parser) (symbol query : String) :
    (parser.detach symbol).1.routes.find? query =
      if query = symbol then none else parser.routes.find? query :=
  parser.routes.find?_erase symbol query

/-- A connection's start leaves every route, awaiting its snapshot. -/
theorem find?_start (parser : L2Parser) (query : String) :
    parser.start.1.routes.find? query =
      (parser.routes.find? query).map fun route => { route with awaitingSnapshot := true } :=
  parser.routes.find?_mapValues _ query

/-- An attachment succeeds exactly where the symbol has no route. -/
theorem attach_eq_ok_iff {parser next : L2Parser} {symbol : String} {precision : PairPrecision}
    {depth : UInt32} {receiver : ReceiverId} {events : List Event} :
    parser.attach symbol precision depth receiver = .ok (next, events) ↔
      parser.routes.find? symbol = none ∧
        parser.setRoute symbol ⟨precision, receiver, true, .ofDepth depth⟩ = next ∧
        [.attached symbol depth receiver] = events := by
  unfold attach
  cases parser.routes.find? symbol with
  | none => simp only [Except.ok.injEq, Prod.mk.injEq, true_and]
  | some stored => simp only [reduceCtorEq, false_and]

/-- A route is found for a snapshot always, and for an update once its snapshot came. -/
theorem findRoute_eq_some_iff {parser : L2Parser} {symbol : String} {type : MessageType}
    {route : Route} :
    parser.findRoute symbol type = some route ↔
      parser.routes.find? symbol = some route ∧
        (type = .snapshot ∨ route.awaitingSnapshot = false) := by
  unfold findRoute
  cases parser.routes.find? symbol with
  | none => simp only [reduceCtorEq, false_and]
  | some stored =>
      by_cases dropped : type = .update ∧ stored.awaitingSnapshot
      · simp only [dropped, and_self, ↓reduceIte, reduceCtorEq, Option.some.injEq, false_or,
          false_iff, not_and, Bool.not_eq_false]
        rintro rfl
        exact dropped.2
      · simp only [dropped, ↓reduceIte, iff_self_and]
        intro same
        obtain rfl := Option.some.inj same
        cases type with
        | snapshot => exact Or.inl rfl
        | update =>
            exact Or.inr (Bool.eq_false_of_not_eq_true fun awaiting => dropped ⟨rfl, awaiting⟩)

end L2Parser

end DataFeed.Venue
