import DataFeed.Venue.L2Manager

/-! # What a manager's step can do

Every step of a manager, by who takes it (`Step`), and every step of a locked
section, by its branch (`SectionStep`). An invariant is proved by cases on these.
It is stated for the section the lock's holder is in (`current`), if any; who the
holder is matters to few of them.
-/

namespace DataFeed.Venue

open Foundation L2 Net DataFeed.Core

/-- The section that goes on after a step, if one does. -/
def Next.section? : Next → Option Section
  | .goOn next => some next
  | .release _ => none

namespace L2Manager

variable {Decoder : Type} {adapter : Adapter Decoder} {manager : L2Manager Decoder}

/-- The section that the holder of the life cycle lock is in. -/
def current (manager : L2Manager Decoder) : Option Section := manager.lock.map Prod.snd

/-- Settling a stretch touches the lock, the calls and the resubscriber only. -/
theorem settle_eq (manager : L2Manager Decoder) (holder : Holder) (next : Next) :
    ∃ lock calls resubscriber, manager.settle holder next =
      { manager with lock := lock, calls := calls, resubscriber := resubscriber } ∧
        lock.map Prod.snd = next.section? := by
  cases next with
  | goOn next => exact ⟨_, _, _, rfl, rfl⟩
  | release state =>
      cases holder with
      | call call => exact ⟨none, _, _, rfl, rfl⟩
      | resubscriber => exact ⟨none, _, _, rfl, rfl⟩

/-- What handing books to the connection changes. -/
theorem send_eq (adapter : Adapter Decoder) (manager : L2Manager Decoder)
    (request : BookRequest) (book : BookSpec) :
    ∃ connection, manager.send adapter request book =
      { manager with
        pipeline := { manager.pipeline with
          feed := { manager.pipeline.feed with connection := connection } }
        log := manager.log ++ if manager.connected then [.sent request book] else [] } := by
  unfold send
  split
  · exact ⟨_, rfl⟩
  · exact ⟨manager.pipeline.feed.connection, by rw [List.append_nil]⟩

/-- Sending texts touches the connection only. -/
theorem sendTexts_eq (texts : List String) (feed : WebsocketFeed) :
    ∃ connection, texts.foldl WebsocketFeed.send feed = { feed with connection := connection } := by
  induction texts generalizing feed with
  | nil => exact ⟨feed.connection, rfl⟩
  | cons text rest ih =>
      obtain ⟨connection, same⟩ := ih (feed.send text)
      exact ⟨connection, same⟩

/-- The books of the subscriptions, in the order of their ids. -/
def books (subscriptions : Subscriptions) : List BookSpec :=
  subscriptions.entries.map fun entry => entry.2.book

/-- Sending requests touches the connection and the log only. -/
theorem sendBooks_eq (adapter : Adapter Decoder) (list : List BookSpec)
    (manager : L2Manager Decoder) :
    ∃ connection, list.foldl (fun manager book => manager.send adapter .subscribe book) manager =
      { manager with
        pipeline := { manager.pipeline with
          feed := { manager.pipeline.feed with connection := connection } }
        log := manager.log ++
          if manager.connected then list.map (Event.sent .subscribe) else [] } := by
  induction list generalizing manager with
  | nil => exact ⟨manager.pipeline.feed.connection, by simp only [List.foldl_nil, List.map_nil,
      ite_self, List.append_nil]⟩
  | cons book rest ih =>
      rw [List.foldl_cons]
      obtain ⟨first, sent⟩ := send_eq adapter manager .subscribe book
      obtain ⟨connection, same⟩ := ih (manager.send adapter .subscribe book)
      refine ⟨connection, same.trans ?_⟩
      rw [sent]
      cases manager.connected with
      | false => simp only [Bool.false_eq_true, ↓reduceIte, List.append_nil]
      | true => simp only [↓reduceIte, List.append_assoc, List.map_cons, List.singleton_append]

/-- Sending every request again touches the connection and the log only. -/
theorem sendAll_eq (adapter : Adapter Decoder) (manager : L2Manager Decoder) :
    ∃ connection, manager.sendAll adapter =
      { manager with
        pipeline := { manager.pipeline with
          feed := { manager.pipeline.feed with connection := connection } }
        log := manager.log ++ if manager.connected then
          (books manager.subscriptions).map (Event.sent .subscribe) else [] } := by
  obtain ⟨first, texts⟩ := sendTexts_eq adapter.connectRequests manager.pipeline.feed
  unfold sendAll
  rw [texts]
  exact sendBooks_eq adapter _ _

variable (adapter manager) in
/-- Everything a step of a locked section can do. -/
inductive SectionStep : Section → L2Manager Decoder → Next → Prop
  | healthy :
      manager.connected = true → manager.pipeline.failed = false →
        SectionStep .connect manager (.release (.ending .done))
  | unhealthy : SectionStep .connect manager (.goOn (.disconnectFeed true))
  | disconnectFeed (reconnect : Bool) :
      SectionStep (.disconnectFeed reconnect)
        { manager with pipeline := { manager.pipeline with
          feed := { manager.pipeline.feed with stop := true } } }
        (.goOn (.joinFeed reconnect))
  | joinFeed (reconnect : Bool) :
      manager.pipeline.feed.thread = none ∨ manager.pipeline.feed.thread = some .ended →
        SectionStep (.joinFeed reconnect)
          { manager with pipeline := { manager.pipeline with
            feed := { manager.pipeline.feed with connection := none, thread := none } } }
          (.goOn (.stopParser reconnect))
  | stopParser (reconnect : Bool) :
      SectionStep (.stopParser reconnect)
        { manager with pipeline := { manager.pipeline with parserStop := true } }
        (.goOn (.joinParser reconnect))
  | joinParser (reconnect : Bool) :
      manager.pipeline.decoding = false →
        SectionStep (.joinParser reconnect)
          { manager with pipeline := { manager.pipeline with parserThread := none } }
          (.goOn (.endConnection reconnect))
  | endConnection (reconnect : Bool) (next : Next) :
      next.section? = (if reconnect then some .startParser else none) →
        next = (if reconnect then .goOn .startParser else .release (.ending .done)) →
          SectionStep (.endConnection reconnect) manager.endConnection next
  | startParser : SectionStep .startParser (manager.startParser adapter) (.goOn .connectFeed)
  | connectFeed :
      SectionStep .connectFeed
        { manager with
          connected := true
          pipeline := { manager.pipeline with
            feed := .connect (connectionNumber manager.log) } }
        (.goOn .sendRequests)
  | stopRefused (what : String) :
      SectionStep (.stopRefused what)
        { manager with pipeline := { manager.pipeline with parserStop := true } }
        (.goOn (.joinRefused what))
  | joinRefused (what : String) :
      manager.pipeline.decoding = false →
        SectionStep (.joinRefused what)
          { manager with pipeline := { manager.pipeline with parserThread := none } }
          (.release (.ending (.thrown what)))
  | sendRequests (connection : Option (List String)) :
      SectionStep .sendRequests
        { manager with
          pipeline := { manager.pipeline with
            feed := { manager.pipeline.feed with connection := connection } }
          log := manager.log ++ if manager.connected then
            (books manager.subscriptions).map (Event.sent .subscribe) else [] }
        (.release (.ending .done))
  | checkHealthy :
      SectionStep .healthy manager
        (.release (.ending (.healthy (manager.connected && !manager.pipeline.failed))))
  | takenFirst (request : SubscribeRequest) (outcome : Outcome) :
      resolveTaken manager.subscriptions request.id request.book = some outcome →
        SectionStep (.resolveFirst request) manager (.release (.ending outcome))
  | freeFirst (request : SubscribeRequest) :
      resolveTaken manager.subscriptions request.id request.book = none →
        SectionStep (.resolveFirst request) manager (.release (.fetching request))
  | takenAgain (request : SubscribeRequest) (precision : PairPrecision) (outcome : Outcome) :
      resolveTaken manager.subscriptions request.id request.book = some outcome →
        SectionStep (.resolveAgain request precision) manager (.release (.ending outcome))
  | unbuilt (request : SubscribeRequest) (precision : PairPrecision) (what : String) :
      resolveTaken manager.subscriptions request.id request.book = none →
        request.makeReceiver precision = .error what →
          SectionStep (.resolveAgain request precision) manager
            (.release (.ending (.thrown what)))
  | built (request : SubscribeRequest) (precision : PairPrecision) :
      resolveTaken manager.subscriptions request.id request.book = none →
        request.makeReceiver precision = .ok () →
          SectionStep (.resolveAgain request precision)
            { manager with
              subscriptions := manager.subscriptions.insert request.id
                ⟨request.book, request.nowNs, manager.nextReceiver⟩
              nextReceiver := manager.nextReceiver + 1 }
            (.goOn (.attach request precision manager.nextReceiver))
  | unattached (request : SubscribeRequest) (precision : PairPrecision) (receiver : ReceiverId)
      (what : String) :
      manager.parser.attach request.book.symbol precision request.book.depth receiver =
          .error what →
        SectionStep (.attach request precision receiver)
          { manager with subscriptions := manager.subscriptions.erase request.id }
          (.release (.ending (.thrown what)))
  | attached (request : SubscribeRequest) (precision : PairPrecision) (receiver : ReceiverId)
      (parser : L2Parser) (events : List Event) :
      manager.pipeline.decoding = false →
        manager.parser.attach request.book.symbol precision request.book.depth receiver =
            .ok (parser, events) →
          SectionStep (.attach request precision receiver)
            { manager with parser := parser, log := manager.log ++ events }
            (.goOn (.sendSubscribe request))
  | sendSubscribe (request : SubscribeRequest) (connection : Option (List String)) :
      SectionStep (.sendSubscribe request)
        { manager with
          pipeline := { manager.pipeline with
            feed := { manager.pipeline.feed with connection := connection } }
          log := manager.log ++
            if manager.connected then [.sent .subscribe request.book] else [] }
        (.release (.ending (.subscribed request.id)))
  | unknown (id : SubscriptionId) :
      manager.subscriptions.find? id = none →
        SectionStep (.unsubscribe id) manager (.release (.ending (.failed
          { code := .unknownId, detail := "No subscription " ++ toString id })))
  | detached (id : SubscriptionId) (subscription : Subscription) :
      manager.subscriptions.find? id = some subscription →
        manager.pipeline.decoding = false →
          SectionStep (.unsubscribe id)
            { manager with
              parser := (manager.parser.detach subscription.book.symbol).1
              log := manager.log ++ (manager.parser.detach subscription.book.symbol).2 }
            (.goOn (.sendUnsubscribe id subscription.book))
  | sendUnsubscribe (id : SubscriptionId) (book : BookSpec) (connection : Option (List String)) :
      SectionStep (.sendUnsubscribe id book)
        { manager with
          pipeline := { manager.pipeline with
            feed := { manager.pipeline.feed with connection := connection } }
          log := manager.log ++ if manager.connected then [.sent .unsubscribe book] else [] }
        (.goOn (.erase id))
  | erase (id : SubscriptionId) :
      SectionStep (.erase id)
        { manager with subscriptions := manager.subscriptions.erase id }
        (.release (.ending .done))
  | list :
      SectionStep .list manager
        (.release (.ending (.listed (infos manager.subscriptions))))
  | gone (symbol : String) :
      findSymbol manager.subscriptions symbol = none ∨ manager.connected = false →
        SectionStep (.resubscribe symbol) manager (.release (.ending .done))
  | resubscribe (symbol : String) (id : SubscriptionId) (subscription : Subscription)
      (connection : Option (List String)) :
      findSymbol manager.subscriptions symbol = some (id, subscription) →
        manager.connected = true →
          SectionStep (.resubscribe symbol)
            { manager with
              pipeline := { manager.pipeline with
                feed := { manager.pipeline.feed with connection := connection } }
              log := manager.log ++ [.sent .unsubscribe subscription.book] }
            (.goOn (.resendSubscribe id subscription.book))
  | resendSubscribe (id : SubscriptionId) (book : BookSpec)
      (connection : Option (List String)) :
      SectionStep (.resendSubscribe id book)
        { manager with
          pipeline := { manager.pipeline with
            feed := { manager.pipeline.feed with connection := connection } }
          log := manager.log ++ if manager.connected then [.sent .subscribe book] else [] }
        (.release (.ending .done))

/-- Joining the parser thread needs it to be at its end. -/
theorem joinParser_eq {pipeline joined : Pipeline Decoder}
    (done : pipeline.joinParser = some joined) :
    pipeline.decoding = false ∧ joined = { pipeline with parserThread := none } := by
  unfold Pipeline.joinParser at done
  unfold Pipeline.decoding
  split at done
  · rename_i ended
    obtain rfl := Option.some.inj done
    rw [ended]
    exact ⟨rfl, rfl⟩
  · rename_i ended
    obtain rfl := Option.some.inj done
    rw [ended]
    exact ⟨rfl, rfl⟩
  · exact (Option.some_ne_none _ done.symm).elim
  · exact (Option.some_ne_none _ done.symm).elim

/-- Joining the network thread needs it to be at its end. -/
theorem join_cases {feed joined : WebsocketFeed} (done : feed.join = some joined) :
    (feed.thread = none ∨ feed.thread = some .ended) ∧
      joined = { feed with connection := none, thread := none } := by
  refine ⟨?_, feed.join_eq done⟩
  unfold WebsocketFeed.join at done
  split at done
  · rename_i ended
    exact Or.inl ended
  · rename_i ended
    exact Or.inr ended
  · exact (Option.some_ne_none _ done.symm).elim
  · exact (Option.some_ne_none _ done.symm).elim

/-- A step of a section is one of the listed ones. -/
theorem sectionStep_cases {current : Section} {next : L2Manager Decoder} {after : Next}
    (stepped : manager.sectionStep adapter current = some (next, after)) :
    SectionStep adapter manager current next after := by
  cases current with
  | connect =>
      simp only [sectionStep] at stepped
      split at stepped
      · rename_i up
        obtain ⟨rfl, rfl⟩ := Prod.mk.inj (Option.some.inj stepped)
        exact .healthy up.1 (Bool.eq_false_of_not_eq_true up.2)
      · obtain ⟨rfl, rfl⟩ := Prod.mk.inj (Option.some.inj stepped)
        exact .unhealthy
  | disconnectFeed reconnect =>
      obtain ⟨rfl, rfl⟩ := Prod.mk.inj (Option.some.inj stepped)
      exact .disconnectFeed reconnect
  | joinFeed reconnect =>
      obtain ⟨feed, joined, same⟩ := Option.map_eq_some_iff.mp stepped
      obtain ⟨rfl, rfl⟩ := Prod.mk.inj same
      obtain ⟨ended, rfl⟩ := join_cases joined
      exact .joinFeed reconnect ended
  | stopParser reconnect =>
      obtain ⟨rfl, rfl⟩ := Prod.mk.inj (Option.some.inj stepped)
      exact .stopParser reconnect
  | joinParser reconnect =>
      obtain ⟨pipeline, joined, same⟩ := Option.map_eq_some_iff.mp stepped
      obtain ⟨rfl, rfl⟩ := Prod.mk.inj same
      obtain ⟨idle, rfl⟩ := joinParser_eq joined
      exact .joinParser reconnect idle
  | endConnection reconnect =>
      obtain ⟨rfl, rfl⟩ := Prod.mk.inj (Option.some.inj stepped)
      refine .endConnection reconnect _ ?_ rfl
      cases reconnect <;> rfl
  | startParser =>
      obtain ⟨rfl, rfl⟩ := Prod.mk.inj (Option.some.inj stepped)
      exact .startParser
  | connectFeed =>
      obtain ⟨rfl, rfl⟩ := Prod.mk.inj (Option.some.inj stepped)
      exact .connectFeed
  | stopRefused what =>
      obtain ⟨rfl, rfl⟩ := Prod.mk.inj (Option.some.inj stepped)
      exact .stopRefused what
  | joinRefused what =>
      obtain ⟨pipeline, joined, same⟩ := Option.map_eq_some_iff.mp stepped
      obtain ⟨rfl, rfl⟩ := Prod.mk.inj same
      obtain ⟨idle, rfl⟩ := joinParser_eq joined
      exact .joinRefused what idle
  | sendRequests =>
      obtain ⟨rfl, rfl⟩ := Prod.mk.inj (Option.some.inj stepped)
      obtain ⟨connection, sent⟩ := sendAll_eq adapter manager
      rw [sent]
      exact .sendRequests connection
  | healthy =>
      obtain ⟨rfl, rfl⟩ := Prod.mk.inj (Option.some.inj stepped)
      exact .checkHealthy
  | resolveFirst request =>
      simp only [sectionStep] at stepped
      split at stepped
      · rename_i taken
        obtain ⟨rfl, rfl⟩ := Prod.mk.inj (Option.some.inj stepped)
        exact .takenFirst request _ taken
      · rename_i free
        obtain ⟨rfl, rfl⟩ := Prod.mk.inj (Option.some.inj stepped)
        exact .freeFirst request free
  | resolveAgain request precision =>
      simp only [sectionStep] at stepped
      split at stepped
      · rename_i taken
        obtain ⟨rfl, rfl⟩ := Prod.mk.inj (Option.some.inj stepped)
        exact .takenAgain request precision _ taken
      · rename_i free
        split at stepped
        · rename_i thrown
          obtain ⟨rfl, rfl⟩ := Prod.mk.inj (Option.some.inj stepped)
          exact .unbuilt request precision _ free thrown
        · rename_i built
          obtain ⟨rfl, rfl⟩ := Prod.mk.inj (Option.some.inj stepped)
          exact .built request precision free built
  | attach request precision receiver =>
      simp only [sectionStep] at stepped
      split at stepped
      · contradiction
      · rename_i idle
        split at stepped
        · rename_i refused
          obtain ⟨rfl, rfl⟩ := Prod.mk.inj (Option.some.inj stepped)
          exact .unattached request precision receiver _ refused
        · rename_i parser events done
          obtain ⟨rfl, rfl⟩ := Prod.mk.inj (Option.some.inj stepped)
          exact .attached request precision receiver parser events
            (Bool.eq_false_of_not_eq_true idle) done
  | sendSubscribe request =>
      obtain ⟨rfl, rfl⟩ := Prod.mk.inj (Option.some.inj stepped)
      obtain ⟨connection, sent⟩ := send_eq adapter manager .subscribe request.book
      rw [sent]
      exact .sendSubscribe request connection
  | unsubscribe id =>
      simp only [sectionStep] at stepped
      split at stepped
      · rename_i unknown
        obtain ⟨rfl, rfl⟩ := Prod.mk.inj (Option.some.inj stepped)
        exact .unknown id unknown
      · rename_i subscription known
        split at stepped
        · contradiction
        · rename_i idle
          obtain ⟨rfl, rfl⟩ := Prod.mk.inj (Option.some.inj stepped)
          exact .detached id subscription known (Bool.eq_false_of_not_eq_true idle)
  | sendUnsubscribe id book =>
      obtain ⟨rfl, rfl⟩ := Prod.mk.inj (Option.some.inj stepped)
      obtain ⟨connection, sent⟩ := send_eq adapter manager .unsubscribe book
      rw [sent]
      exact .sendUnsubscribe id book connection
  | erase id =>
      obtain ⟨rfl, rfl⟩ := Prod.mk.inj (Option.some.inj stepped)
      exact .erase id
  | list =>
      obtain ⟨rfl, rfl⟩ := Prod.mk.inj (Option.some.inj stepped)
      exact .list
  | resubscribe symbol =>
      simp only [sectionStep] at stepped
      split at stepped
      · rename_i gone
        obtain ⟨rfl, rfl⟩ := Prod.mk.inj (Option.some.inj stepped)
        exact .gone symbol (Or.inl gone)
      · rename_i id subscription found
        split at stepped
        · rename_i connected
          obtain ⟨rfl, rfl⟩ := Prod.mk.inj (Option.some.inj stepped)
          obtain ⟨connection, sent⟩ := send_eq adapter manager .unsubscribe subscription.book
          rw [sent, if_pos connected]
          exact .resubscribe symbol id subscription connection found connected
        · rename_i disconnected
          obtain ⟨rfl, rfl⟩ := Prod.mk.inj (Option.some.inj stepped)
          exact .gone symbol (Or.inr (Bool.eq_false_of_not_eq_true disconnected))
  | resendSubscribe id book =>
      obtain ⟨rfl, rfl⟩ := Prod.mk.inj (Option.some.inj stepped)
      obtain ⟨connection, sent⟩ := send_eq adapter manager .subscribe book
      rw [sent]
      exact .resendSubscribe id book connection

variable (adapter manager) in
/-- Everything a step of the parser's thread can do. -/
inductive ParserStep : L2Manager Decoder → Prop
  | decode (decoder : Decoder) (connection : Nat) (frame : RawFrame)
      (rest : List (Nat × RawFrame)) :
      manager.pipeline.parserThread = some (.waiting decoder) →
        manager.pipeline.frames = (connection, frame) :: rest →
          ParserStep
            { manager with
              pipeline := { manager.pipeline with
                parserThread := some (.decoding (adapter.decode decoder frame)) }
              log := manager.log ++ [.decoded connection] }
  | exit (decoder : Decoder) :
      manager.pipeline.parserThread = some (.waiting decoder) →
        ParserStep
          { manager with pipeline := { manager.pipeline with parserThread := some .ended } }
  | find (symbol : String) (type : MessageType)
      (next : Option PairPrecision → Decoding Decoder) :
      manager.pipeline.parserThread = some (.decoding (.find symbol type next)) →
        ParserStep
          { manager with pipeline := { manager.pipeline with
            parserThread := some (.decoding (next (manager.parser.find symbol type))) } }
  | emit (message : Message) (next : Decoding Decoder) :
      manager.pipeline.parserThread = some (.decoding (.emit message next)) →
        ParserStep
          { manager with
            parser := (manager.parser.emit message).1
            pipeline := { manager.pipeline with parserThread := some (.decoding next) }
            resubscriber :=
              (mismatches (manager.parser.emit message).2).foldl Resubscriber.request
                manager.resubscriber
            log := manager.log ++ (manager.parser.emit message).2 }
  | done (decoder : Decoder) :
      manager.pipeline.parserThread = some (.decoding (.done decoder)) →
        ParserStep
          { manager with pipeline := { manager.pipeline with
            frames := manager.pipeline.frames.tail
            parserThread := some (.waiting decoder) } }
  | fail (what : String) :
      manager.pipeline.parserThread = some (.decoding (.fail what)) →
        ParserStep
          { manager with pipeline := { manager.pipeline with
            failed := true
            parserThread := some .ended } }

/-- A step of the parser's thread is one of the listed ones. -/
theorem parserStep_cases {next : L2Manager Decoder}
    (stepped : manager.parserStep adapter = some next) : ParserStep adapter manager next := by
  unfold parserStep at stepped
  split at stepped
  · rename_i decoder waiting
    split at stepped
    · rename_i connection frame rest frames
      obtain rfl := Option.some.inj stepped
      exact .decode decoder connection frame rest waiting frames
    · split at stepped
      · obtain rfl := Option.some.inj stepped
        exact .exit decoder waiting
      · contradiction
  · rename_i symbol type next decoding
    obtain rfl := Option.some.inj stepped
    exact .find symbol type next decoding
  · rename_i message next decoding
    obtain rfl := Option.some.inj stepped
    exact .emit message next decoding
  · rename_i decoder decoding
    obtain rfl := Option.some.inj stepped
    exact .done decoder decoding
  · rename_i what decoding
    obtain rfl := Option.some.inj stepped
    exact .fail what decoding
  · contradiction
  · contradiction

/-- What a step of the network thread changes. -/
theorem networkStep_cases {pipeline next : Pipeline Decoder} {step : NetworkStep}
    (stepped : pipeline.networkStep step = some next) :
    ∃ thread failed frames, pipeline.feed.thread ≠ none ∧
      next = { pipeline with
        failed := failed
        frames := pipeline.frames ++ frames
        feed := { pipeline.feed with thread := some thread } } ∧
      ∀ entry ∈ frames, entry.1 = pipeline.feed.number := by
  have none_new : ∀ entry ∈ ([] : List (Nat × RawFrame)), entry.1 = pipeline.feed.number :=
    fun _ member => (List.not_mem_nil member).elim
  cases step with
  | read frame =>
      simp only [Pipeline.networkStep] at stepped
      split at stepped
      · rename_i reading
        obtain rfl := Option.some.inj stepped
        refine ⟨.pushing frame, pipeline.failed, [], ?_, ?_, none_new⟩
        · rw [reading]
          exact Option.some_ne_none _
        · rw [List.append_nil]
          rfl
      · contradiction
  | push =>
      simp only [Pipeline.networkStep] at stepped
      split at stepped
      · rename_i frame pushing
        split at stepped
        · obtain rfl := Option.some.inj stepped
          refine ⟨.reading, pipeline.failed, [(pipeline.feed.number, frame)], ?_, rfl, ?_⟩
          · rw [pushing]
            exact Option.some_ne_none _
          · intro entry member
            rw [List.mem_singleton.mp member]
        · contradiction
      · contradiction
  | giveUp =>
      simp only [Pipeline.networkStep] at stepped
      split at stepped
      · rename_i frame pushing
        split at stepped
        · obtain rfl := Option.some.inj stepped
          refine ⟨.reading, pipeline.failed, [], ?_, ?_, none_new⟩
          · rw [pushing]
            exact Option.some_ne_none _
          · rw [List.append_nil]
            rfl
        · contradiction
      · contradiction
  | stop =>
      simp only [Pipeline.networkStep] at stepped
      split at stepped
      · rename_i reading
        split at stepped
        · obtain rfl := Option.some.inj stepped
          refine ⟨.ended, pipeline.failed, [], ?_, ?_, none_new⟩
          · rw [reading]
            exact Option.some_ne_none _
          · rw [List.append_nil]
            rfl
        · contradiction
      · contradiction
  | fail =>
      simp only [Pipeline.networkStep] at stepped
      split at stepped
      · rename_i reading
        obtain rfl := Option.some.inj stepped
        refine ⟨.ended, true, [], ?_, ?_, none_new⟩
        · rw [reading]
          exact Option.some_ne_none _
        · rw [List.append_nil]
          rfl
      · contradiction

/-- A section that a call or the resubscriber begins with. -/
def Entry : Section → Prop
  | .connect | .disconnectFeed false | .healthy | .resolveFirst _ | .resolveAgain _ _
  | .unsubscribe _ | .list | .resubscribe _ => True
  | _ => False

/-- A section that belongs to the resubscriber. -/
def Resubscribing : Section → Prop
  | .resubscribe _ | .resendSubscribe _ _ => True
  | _ => False

/-- What a waiting call enters with is an entry, and none of the resubscriber's. -/
theorem entry_of_call {state : CallState} {entry : Section} (waits : state.entry? = some entry) :
    Entry entry ∧ ¬ Resubscribing entry := by
  cases state with
  | waiting operation =>
      obtain rfl := Option.some.inj waits
      cases operation <;> exact ⟨trivial, not_false⟩
  | fetched request precision =>
      obtain rfl := Option.some.inj waits
      exact ⟨trivial, not_false⟩
  | inside | fetching | ending | returned => exact (Option.some_ne_none _ waits.symm).elim

variable (adapter manager) in
/-- Everything a step of a manager can do, by who takes it. -/
inductive Step : L2Manager Decoder → Prop
  /-- A call is made, is answered by the venue, or returns. -/
  | caller (calls : Nat → Option CallState) (history : List (CallEvent Operation Outcome)) :
      Step { manager with calls := calls, history := history }
  | acquire (call : Nat) (entry : Section) (calls : Nat → Option CallState) :
      manager.lock = none → Entry entry → ¬ Resubscribing entry →
        Step { manager with lock := some (.call call, entry), calls := calls }
  | resume (symbol : String) (began : Nat) :
      manager.lock = none → manager.resubscriber.thread = .resubscribing symbol began →
        Step { manager with lock := some (.resubscriber, .resubscribe symbol) }
  | run (holder : Holder) (current : Section) (stepped : L2Manager Decoder) (next : Next) :
      manager.lock = some (holder, current) →
        SectionStep adapter manager current stepped next → Step (stepped.settle holder next)
  | refuse (holder : Holder) (what : String) :
      manager.lock = some (holder, .connectFeed) →
        Step
          { manager with
            pipeline := { manager.pipeline with feed := .refused }
            lock := some (holder, .stopRefused what) }
  | network (thread : NetworkThread) (failed : Bool) (frames : List (Nat × RawFrame)) :
      manager.pipeline.feed.thread ≠ none →
        (∀ entry ∈ frames, entry.1 = manager.pipeline.feed.number) →
          Step
            { manager with pipeline := { manager.pipeline with
              failed := failed
              frames := manager.pipeline.frames ++ frames
              feed := { manager.pipeline.feed with thread := some thread } } }
  | parse (next : L2Manager Decoder) : ParserStep adapter manager next → Step next
  | resubscriber (resubscriber : Resubscriber) :
      manager.resubscriber.step = some resubscriber →
        Step { manager with resubscriber := resubscriber }
  | tick (elapsed : Nat) :
      Step { manager with resubscriber := { manager.resubscriber with
        now := manager.resubscriber.now + elapsed } }

/-- A step of a manager is one of the listed ones. -/
theorem step_cases {next : L2Manager Decoder} {action : Action}
    (stepped : step adapter manager action = some next) : Step adapter manager next := by
  cases action with
  | invoke call operation =>
      simp only [step] at stepped
      split at stepped
      · contradiction
      · obtain rfl := Option.some.inj stepped
        exact .caller _ _
  | acquire holder =>
      cases holder with
      | call call =>
          simp only [step] at stepped
          split at stepped
          · rename_i entry free waits
            obtain rfl := Option.some.inj stepped
            obtain ⟨state, _, waits⟩ := Option.bind_eq_some_iff.mp waits
            obtain ⟨begins, calls⟩ := entry_of_call waits
            exact .acquire call entry _ free begins calls
          · contradiction
      | resubscriber =>
          simp only [step] at stepped
          split at stepped
          · rename_i symbol began free resubscribing
            obtain rfl := Option.some.inj stepped
            exact .resume symbol began free resubscribing
          · contradiction
  | run =>
      simp only [step] at stepped
      split at stepped
      · contradiction
      · rename_i holder current held
        obtain ⟨⟨middle, after⟩, moved, rfl⟩ := Option.map_eq_some_iff.mp stepped
        exact .run holder current middle after held (sectionStep_cases moved)
  | refuse what =>
      simp only [step] at stepped
      split at stepped
      · rename_i holder held
        obtain rfl := Option.some.inj stepped
        exact .refuse holder what held
      · contradiction
  | fetch call =>
      simp only [step] at stepped
      split at stepped
      · obtain rfl := Option.some.inj stepped
        exact .caller _ _
      · contradiction
  | respond call =>
      simp only [step] at stepped
      split at stepped
      · obtain rfl := Option.some.inj stepped
        exact .caller _ _
      · contradiction
  | network step =>
      obtain ⟨pipeline, moved, rfl⟩ := Option.map_eq_some_iff.mp stepped
      obtain ⟨thread, failed, frames, running, rfl, numbered⟩ := networkStep_cases moved
      exact .network thread failed frames running numbered
  | parse => exact .parse next (parserStep_cases stepped)
  | resubscribe =>
      obtain ⟨resubscriber, moved, rfl⟩ := Option.map_eq_some_iff.mp stepped
      exact .resubscriber resubscriber moved
  | tick elapsed =>
      obtain rfl := Option.some.inj stepped
      exact .tick elapsed

/-- **Induction over a manager's runs.** What holds of a manager and the section its
lock's holder is in, and does not speak of the lock itself, of its callers or of its
resubscriber, holds in every reachable state if it survives whatever the lock's holder and
the two threads of the pipeline do. -/
theorem invariant_of_actions {invariant : L2Manager Decoder → Option Section → Prop}
    (reachable : (system adapter).Reachable manager)
    (initial : invariant (init adapter) none)
    (around : ∀ (manager : L2Manager Decoder) current lock calls history resubscriber,
      invariant manager current →
        invariant { manager with
          lock := lock
          calls := calls
          history := history
          resubscriber := resubscriber } current)
    (entry : ∀ manager begun, Entry begun → invariant manager none →
      invariant manager (some begun))
    (locked : ∀ manager current next after, invariant manager (some current) →
      manager.sectionStep adapter current = some (next, after) → invariant next after.section?)
    (refuse : ∀ (manager : L2Manager Decoder) what, invariant manager (some .connectFeed) →
      invariant { manager with pipeline := { manager.pipeline with feed := .refused } }
        (some (.stopRefused what)))
    (network : ∀ (manager : L2Manager Decoder) current action pipeline,
      invariant manager current → manager.pipeline.networkStep action = some pipeline →
        invariant { manager with pipeline := pipeline } current)
    (parse : ∀ manager current next, invariant manager current →
      manager.parserStep adapter = some next → invariant next current) :
    invariant manager manager.current := by
  have every : ∀ state action next, invariant state state.current →
      step adapter state action = some next → invariant next next.current := by
    intro state action next held stepped
    cases action with
    | run =>
        simp only [step] at stepped
        split at stepped
        · contradiction
        · rename_i holder current holds
          obtain ⟨⟨middle, after⟩, moved, rfl⟩ := Option.map_eq_some_iff.mp stepped
          unfold L2Manager.current at held
          rw [holds] at held
          have moved := locked state current middle after held moved
          obtain ⟨lock, calls, resubscriber, same, goes⟩ := settle_eq middle holder after
          rw [same]
          unfold L2Manager.current
          dsimp only
          rw [goes]
          exact around middle _ lock calls middle.history resubscriber moved
    | refuse what =>
        simp only [step] at stepped
        split at stepped
        · rename_i holder holds
          obtain rfl := Option.some.inj stepped
          unfold L2Manager.current at held
          rw [holds] at held
          exact around _ _ _ state.calls state.history state.resubscriber (refuse state what held)
        · contradiction
    | network moved =>
        obtain ⟨pipeline, moved, rfl⟩ := Option.map_eq_some_iff.mp stepped
        exact network state _ _ pipeline held moved
    | parse =>
        have same : next.current = state.current := by
          cases parserStep_cases stepped <;> rfl
        rw [same]
        exact parse state _ next held stepped
    | acquire holder =>
        cases holder with
        | call call =>
            simp only [step] at stepped
            split at stepped
            · rename_i begins free waits
              obtain rfl := Option.some.inj stepped
              obtain ⟨waiting, _, waits⟩ := Option.bind_eq_some_iff.mp waits
              unfold L2Manager.current at held
              rw [free] at held
              exact around state _ _ _ state.history state.resubscriber
                (entry state begins (entry_of_call waits).1 held)
            · contradiction
        | resubscriber =>
            simp only [step] at stepped
            split at stepped
            · rename_i symbol began free resubscribing
              obtain rfl := Option.some.inj stepped
              unfold L2Manager.current at held
              rw [free] at held
              exact around state _ _ state.calls state.history state.resubscriber
                (entry state (.resubscribe symbol) trivial held)
            · contradiction
    | invoke call operation =>
        simp only [step] at stepped
        split at stepped
        · contradiction
        · obtain rfl := Option.some.inj stepped
          exact around state _ state.lock _ _ state.resubscriber held
    | fetch call | respond call =>
        simp only [step] at stepped
        split at stepped
        · obtain rfl := Option.some.inj stepped
          exact around state _ state.lock _ _ state.resubscriber held
        · contradiction
    | resubscribe =>
        obtain ⟨resubscriber, _, rfl⟩ := Option.map_eq_some_iff.mp stepped
        exact around state _ state.lock state.calls state.history resubscriber held
    | tick elapsed =>
        obtain rfl := Option.some.inj stepped
        exact around state _ state.lock state.calls state.history _ held
  apply reachable.invariant
  · exact initial
  · exact every

/-- Induction by the kinds of steps. -/
theorem invariant_of_steps {invariant : L2Manager Decoder → Option Section → Prop}
    (reachable : (system adapter).Reachable manager)
    (initial : invariant (init adapter) none)
    (around : ∀ (manager : L2Manager Decoder) current lock calls history resubscriber,
      invariant manager current →
        invariant { manager with
          lock := lock
          calls := calls
          history := history
          resubscriber := resubscriber } current)
    (entry : ∀ manager begun, Entry begun → invariant manager none →
      invariant manager (some begun))
    (locked : ∀ manager current next after, invariant manager (some current) →
      SectionStep adapter manager current next after → invariant next after.section?)
    (refuse : ∀ (manager : L2Manager Decoder) what, invariant manager (some .connectFeed) →
      invariant { manager with pipeline := { manager.pipeline with feed := .refused } }
        (some (.stopRefused what)))
    (network : ∀ (manager : L2Manager Decoder) current thread failed frames,
      invariant manager current → manager.pipeline.feed.thread ≠ none →
        (∀ entry ∈ frames, entry.1 = manager.pipeline.feed.number) →
          invariant { manager with pipeline := { manager.pipeline with
            failed := failed
            frames := manager.pipeline.frames ++ frames
            feed := { manager.pipeline.feed with thread := some thread } } } current)
    (parse : ∀ manager current next, invariant manager current →
      ParserStep adapter manager next → invariant next current) :
    invariant manager manager.current := by
  apply invariant_of_actions reachable initial around entry
  · exact fun manager current next after held stepped =>
      locked manager current next after held (sectionStep_cases stepped)
  · exact refuse
  · intro manager current action pipeline held moved
    obtain ⟨thread, failed, frames, running, rfl, numbered⟩ := networkStep_cases moved
    exact network manager current thread failed frames held running numbered
  · exact fun manager current next held moved =>
      parse manager current next held (parserStep_cases moved)

/-- What a section does is nothing to the calls. -/
theorem sectionStep_calls {current : Section} {next : L2Manager Decoder} {after : Next}
    (moved : SectionStep adapter manager current next after) : next.calls = manager.calls := by
  cases moved <;> rfl

/-- A locked stretch leaves the history as it is. -/
theorem sectionStep_history {current : Section} {after : Next}
    (moved : SectionStep adapter manager current next after) :
    next.history = manager.history := by
  cases moved <;> rfl

/-- The call that holds the lock is inside. -/
theorem inside_of_held (reachable : (system adapter).Reachable manager) {call : Nat}
    {current : Section} (held : manager.lock = some (.call call, current)) :
    manager.calls call = some .inside := by
  have every : ∀ state action next,
      (∀ call current, state.lock = some (Holder.call call, current) →
        state.calls call = some .inside) →
      step adapter state action = some next →
        ∀ call current, next.lock = some (Holder.call call, current) →
          next.calls call = some .inside := by
    intro state action next inside stepped call current held
    have other {around : Nat} {after : CallState} (apart : state.calls around ≠ some .inside)
        (held : state.lock = some (.call call, current)) :
        Function.update state.calls around (some after) call = some .inside := by
      have stood := inside call current held
      have another : call ≠ around := fun same => apart (same ▸ stood)
      exact (Function.update_of_ne another _ _).trans stood
    cases action with
    | invoke around operation =>
        simp only [step] at stepped
        split at stepped
        · contradiction
        · rename_i fresh
          obtain rfl := Option.some.inj stepped
          exact other (fun same => Option.some_ne_none _ (same.symm.trans fresh)) held
    | acquire holder =>
        cases holder with
        | call around =>
            simp only [step] at stepped
            split at stepped
            · obtain rfl := Option.some.inj stepped
              obtain ⟨same, _⟩ := Prod.mk.inj (Option.some.inj held)
              obtain rfl := Holder.call.inj same
              exact Function.update_self _ _ _
            · contradiction
        | resubscriber =>
            simp only [step] at stepped
            split at stepped
            · obtain rfl := Option.some.inj stepped
              exact Holder.noConfusion (Prod.mk.inj (Option.some.inj held)).1
            · contradiction
    | run =>
        simp only [step] at stepped
        split at stepped
        · contradiction
        · rename_i holder before holds
          obtain ⟨⟨middle, after⟩, moved, rfl⟩ := Option.map_eq_some_iff.mp stepped
          have calls := sectionStep_calls (sectionStep_cases moved)
          cases after with
          | goOn further =>
              obtain ⟨same, _⟩ := Prod.mk.inj (Option.some.inj held)
              exact (congrFun calls call).trans (inside call before (same ▸ holds))
          | release after =>
              cases holder <;> exact (Option.some_ne_none _ held.symm).elim
    | refuse what =>
        simp only [step] at stepped
        split at stepped
        · rename_i holder holds
          obtain rfl := Option.some.inj stepped
          obtain ⟨same, _⟩ := Prod.mk.inj (Option.some.inj held)
          exact inside call .connectFeed (same ▸ holds)
        · contradiction
    | fetch around | respond around =>
        simp only [step] at stepped
        split at stepped
        · rename_i outside
          obtain rfl := Option.some.inj stepped
          refine other (fun same => ?_) held
          exact CallState.noConfusion (Option.some.inj (outside.symm.trans same))
        · contradiction
    | network moved =>
        obtain ⟨pipeline, _, rfl⟩ := Option.map_eq_some_iff.mp stepped
        exact inside call current held
    | parse =>
        cases parserStep_cases stepped <;> exact inside call current held
    | resubscribe =>
        obtain ⟨resubscriber, _, rfl⟩ := Option.map_eq_some_iff.mp stepped
        exact inside call current held
    | tick elapsed =>
        obtain rfl := Option.some.inj stepped
        exact inside call current held
  have holds : ∀ call current, manager.lock = some (Holder.call call, current) →
      manager.calls call = some .inside := by
    apply reachable.invariant
    · exact fun _ _ held => (Option.some_ne_none _ held.symm).elim
    · exact every
  exact holds call current held

end L2Manager

end DataFeed.Venue
