import DataFeed.Foundation.History
import DataFeed.Frontend.Convergence

/-! # What a watcher is told of the feed

From a watch on, a watcher gets a description of the stream, what there is instead of
or as a book, and then the messages, with every gap announced before it and its end
announced just before the snapshot that ends it (`Told`). Three flags of the stream
stand for what has been received before the watch (`Recalls`).
-/

namespace DataFeed.Frontend

open Foundation L2 Venue DataFeed.Core

/-- The state of a feed during a gap. -/
def gapState : Gap → Wire.FeedState
  | .disconnected => .disconnected
  | .resubscribing => .degraded

/-- The gap in progress after some calls, if there is one. -/
def openGap (calls : List Stream.Call) : Option Gap :=
  calls.foldl (fun gap call =>
    match call with
    | .interrupt next => some next
    | .receive message => if message.type = .snapshot then none else gap
    | .watch _ | .unwatch _ => gap) none

/-- The messages received in some calls. -/
def received (calls : List Stream.Call) : List Message :=
  calls.filterMap fun call =>
    match call with
    | .receive message => some message
    | .interrupt _ | .watch _ | .unwatch _ => none

/-- Whether a snapshot was among some messages. -/
def begun (messages : List Message) : Bool :=
  messages.any fun message => message.type = .snapshot

/-- A status that says that stream `id` is back. -/
def Returns (id : SubscriptionId) (payload : Payload) : Prop :=
  ∃ status, payload = .feedStatus status ∧ status.state = .live ∧ id ∈ status.healthyStreamIds

/-- A gap was told, and since then not that the stream is back. -/
def GapTold (id : SubscriptionId) (payloads : List Payload) : Prop :=
  ∃ past gap later, payloads = past ++ gap :: later ∧ Stream.Drops gap ∧
    ∀ payload ∈ later, ¬ Returns id payload

/-- The books among some payloads. -/
def books (payloads : List Payload) : List Wire.Book :=
  payloads.filterMap fun payload =>
    match payload with
    | .book book => some book
    | .streamInfo _ | .feedStatus _ | .heartbeat | .result _ => none

/-- What a payload may be, given those sent before it. -/
def Allowed (id : SubscriptionId) (past : List Payload) : Payload → Prop
  | .book book =>
      ¬ GapTold id past ∧ (book.kind = .delta → ∃ first ∈ books past, first.kind = .snapshot)
  | .feedStatus status =>
      status.state = .live → GapTold id past ∧ id ∈ status.healthyStreamIds
  | .streamInfo _ | .heartbeat | .result _ => True

/-- What is sent to a watcher: no change before a snapshot, no book in a gap, and that
the stream is back only in a gap and just before the snapshot that ends it. -/
structure Told (id : SubscriptionId) (payloads : List Payload) : Prop where
  allowed : Along (Allowed id) payloads
  resumes : ∀ past status later, payloads = past ++ .feedStatus status :: later →
    status.state = .live → ∃ book rest, later = .book book :: rest ∧ book.kind = .snapshot

namespace Told

variable {id : SubscriptionId} {payloads : List Payload}

/-- The gap is told after one more payload exactly if that payload drops the book, or if it was told
and the payload does not bring the book back. -/
theorem gapTold_concat {payload : Payload} :
    GapTold id (payloads ++ [payload]) ↔
      Stream.Drops payload ∨ (GapTold id payloads ∧ ¬ Returns id payload) := by
  constructor
  · intro ⟨past, gap, later, split, drops, silent⟩
    rcases split_append split with ⟨rest, same, rfl⟩ | ⟨front, rfl, same⟩
    · exact Or.inr ⟨⟨past, gap, rest, same, drops, fun other member =>
        silent other (List.mem_append_left _ member)⟩,
        silent payload (List.mem_append_right _ List.mem_cons_self)⟩
    · obtain ⟨rfl, rfl, rfl⟩ : front = [] ∧ payload = gap ∧ later = [] := by
        cases front with
        | nil =>
            obtain ⟨rfl, rfl⟩ := List.cons.inj same
            exact ⟨rfl, rfl, rfl⟩
        | cons first front =>
            obtain ⟨_, rest⟩ := List.cons.inj same
            exact (List.append_ne_nil_of_right_ne_nil front (List.cons_ne_nil gap later)
              rest.symm).elim
      exact Or.inl drops
  · rintro (drops | ⟨⟨past, gap, later, rfl, drops, silent⟩, stays⟩)
    · exact ⟨payloads, payload, [], rfl, drops, fun _ member => (List.not_mem_nil member).elim⟩
    · refine ⟨past, gap, later ++ [payload], ?_, drops, ?_⟩
      · rw [List.append_assoc, List.cons_append]
      · intro other member
        rcases List.mem_append.mp member with old | new
        · exact silent other old
        · rw [List.mem_singleton.mp new]
          exact stays

/-- One more payload that is not the end of a gap. -/
theorem concat (told : Told id payloads) {payload : Payload} (allowed : Allowed id payloads payload)
    (stays : ∀ status, payload = .feedStatus status → status.state ≠ .live) :
    Told id (payloads ++ [payload]) where
  allowed := told.allowed.concat allowed
  resumes past status later split live := by
    rcases split_append split with ⟨rest, same, rfl⟩ | ⟨front, _, same⟩
    · obtain ⟨book, rest, rfl, kind⟩ := told.resumes past status rest same live
      exact ⟨book, rest ++ [payload], rfl, kind⟩
    · have member : Payload.feedStatus status ∈ [payload] := by
        rw [same]
        exact List.mem_append_right _ List.mem_cons_self
      exact (stays status (List.mem_singleton.mp member).symm live).elim

/-- The end of a gap, and the snapshot that ends it. -/
theorem resume (told : Told id payloads) (gap : GapTold id payloads) {status : Wire.FeedStatus}
    (live : status.state = .live) (names : id ∈ status.healthyStreamIds) {book : Wire.Book}
    (snapshot : book.kind = .snapshot) :
    Told id (payloads ++ [.feedStatus status] ++ [.book book]) where
  allowed := by
    have announced : Allowed id payloads (.feedStatus status) := fun _ => ⟨gap, names⟩
    refine (told.allowed.concat announced).concat ⟨fun still => ?_, fun delta => ?_⟩
    · rcases gapTold_concat.mp still with drops | ⟨_, stays⟩
      · rcases show _ ∨ _ from drops with down | degraded
        · exact Wire.FeedState.noConfusion (live.symm.trans down)
        · exact Wire.FeedState.noConfusion (live.symm.trans degraded)
      · exact stays ⟨status, rfl, live, names⟩
    · exact Wire.Kind.noConfusion (delta.symm.trans snapshot)
  resumes past other later split back := by
    rw [List.append_assoc] at split
    rcases split_append split with ⟨rest, same, rfl⟩ | ⟨front, _, same⟩
    · obtain ⟨book, rest, rfl, kind⟩ := told.resumes past other rest same back
      exact ⟨book, rest ++ ([.feedStatus status] ++ [.book _]), rfl, kind⟩
    · cases front with
      | nil =>
          obtain ⟨_, rfl⟩ := List.cons.inj same
          exact ⟨book, [], rfl, snapshot⟩
      | cons first front =>
          obtain ⟨_, rest⟩ := List.cons.inj same
          have member : Payload.feedStatus other ∈ [Payload.book book] := by
            rw [show [Payload.book book] = front ++ .feedStatus other :: later from rest]
            exact List.mem_append_right _ List.mem_cons_self
          exact Payload.noConfusion (List.mem_singleton.mp member)

end Told

/-- The books among payloads are those of the first and then those of the second. -/
theorem books_append (first second : List Payload) :
    books (first ++ second) = books first ++ books second :=
  List.filterMap_append

namespace Stream

/-- A watcher that has been told all it needs to know of the stream's state. -/
structure Watched (stream : Stream) (watcher : WatcherId) (payloads : List Payload) : Prop where
  watching : watcher ∈ stream.watchers
  told : Told stream.id payloads
  gap : GapTold stream.id payloads ↔ stream.interrupted = true
  snapshot : stream.hasSnapshot = true → ∃ first ∈ books payloads, first.kind = .snapshot
  empty : stream.interrupted = true → stream.hasSnapshot = false

/-- The payloads a message is sent as. -/
theorem sentTo_receive {stream : Stream} {watcher : WatcherId}
    (watching : watcher ∈ stream.watchers)
    (message : Message) :
    sentTo watcher (stream.receive message).2 =
      (if message.type = .snapshot ∧ stream.interrupted then [stream.live] else []) ++
        [.book (makeBook stream.id message)] := by
  unfold receive
  rw [sentTo_append, sentTo_sendLocked, if_pos watching]
  split
  · rw [sentTo_sendLocked, if_pos watching]
  · rfl

/-- A book is called a snapshot exactly if the message was one. -/
theorem makeBook_kind {id : SubscriptionId} {message : Message} :
    (makeBook id message).kind = .snapshot ↔ message.type = .snapshot := by
  unfold makeBook
  dsimp only
  split
  · exact iff_of_true rfl ‹_›
  · exact iff_of_false nofun ‹_›

/-- A message sends each watcher what its own account calls for. -/
theorem Watched.receive {stream : Stream} {watcher : WatcherId} {payloads : List Payload}
    (watched : stream.Watched watcher payloads) {message : Message}
    (first : stream.hasSnapshot = false → message.type = .snapshot) :
    (stream.receive message).1.Watched watcher
      (payloads ++ sentTo watcher (stream.receive message).2) := by
  have calm : (stream.receive message).1.interrupted = false := by
    cases interrupted : stream.interrupted with
    | false => simp only [Stream.receive, interrupted, Bool.false_and]
    | true =>
        have snapshot := first (watched.empty interrupted)
        simp only [Stream.receive, snapshot, ne_eq, not_true_eq_false, decide_false, Bool.and_false]
  -- After the message's book there is no gap, and a snapshot if the stream has one.
  have finish : ∀ front, Told stream.id (front ++ [.book (makeBook stream.id message)]) →
      (∀ book ∈ books payloads, book ∈ books front) →
        (stream.receive message).1.Watched watcher
          (front ++ [.book (makeBook stream.id message)]) := by
    intro front told kept
    have outside : ¬ GapTold stream.id front :=
      (told.allowed front _ [] rfl).1
    refine ⟨watched.watching, told, ?_, fun present => ?_, fun interrupted => ?_⟩
    · rw [calm]
      refine iff_of_false (fun gap => ?_) Bool.false_ne_true
      rcases Told.gapTold_concat.mp gap with drops | ⟨still, _⟩
      · exact drops.elim
      · exact outside still
    · rw [books_append]
      rcases Bool.or_eq_true_iff.mp present with before | now
      · obtain ⟨known, listed, kind⟩ := watched.snapshot before
        exact ⟨known, List.mem_append_left _ (kept known listed), kind⟩
      · exact ⟨_, List.mem_append_right _ List.mem_cons_self,
          makeBook_kind.mpr (of_decide_eq_true now)⟩
    · rw [calm] at interrupted
      contradiction
  rw [sentTo_receive watched.watching]
  split
  · rename_i ends
    obtain ⟨snapshot, interrupted⟩ := ends
    rw [← List.append_assoc]
    refine finish _ (watched.told.resume (watched.gap.mpr interrupted) rfl ?_
      (makeBook_kind.mpr snapshot)) fun book listed => ?_
    · exact List.mem_cons_self
    · rw [books_append]
      exact List.mem_append_left _ listed
  · rename_i goes
    rw [List.nil_append]
    refine finish _ (watched.told.concat ⟨fun gap => ?_, fun delta => ?_⟩
      fun _ same => by contradiction) fun _ listed => listed
    · have interrupted := watched.gap.mp gap
      exact goes ⟨first (watched.empty interrupted), interrupted⟩
    · refine watched.snapshot (Bool.eq_true_of_not_eq_false fun absent => ?_)
      exact Wire.Kind.noConfusion (delta.symm.trans (makeBook_kind.mpr (first absent)))

/-- A gap sends each watcher what its own account calls for. -/
theorem Watched.interrupt {stream : Stream} {watcher : WatcherId} {payloads : List Payload}
    (watched : stream.Watched watcher payloads) (gap : Gap) :
    (stream.interrupt gap).1.Watched watcher
      (payloads ++ sentTo watcher (stream.interrupt gap).2) := by
  have drops := stream.drops_status gap
  have sent : sentTo watcher (stream.interrupt gap).2 =
      [if gap = .resubscribing then stream.resubscribing else stream.disconnected] := by
    unfold Stream.interrupt
    rw [sentTo_sendLocked, if_pos watched.watching]
  obtain ⟨status, same⟩ : ∃ status, (if gap = .resubscribing then stream.resubscribing
      else stream.disconnected) = .feedStatus status := by
    split
    · exact ⟨_, rfl⟩
    · exact ⟨_, rfl⟩
  rw [same] at sent drops
  rw [sent]
  have ends : status.state ≠ .live := by
    rcases show _ ∨ _ from drops with down | degraded
    · rw [down]
      nofun
    · rw [degraded]
      nofun
  refine ⟨watched.watching, watched.told.concat (fun live => (ends live).elim) ?_, ?_, nofun,
    fun _ => rfl⟩
  · intro other named
    obtain rfl := Payload.feedStatus.inj named
    exact ends
  · exact iff_of_true (Told.gapTold_concat.mpr (Or.inl drops)) rfl

/-- A call about another watcher sends this one nothing. -/
theorem Watched.aside {stream next : Stream} {watcher : WatcherId} {payloads : List Payload}
    (watched : stream.Watched watcher payloads) (watchers : watcher ∈ next.watchers)
    (id : next.id = stream.id) (interrupted : next.interrupted = stream.interrupted)
    (snapshot : next.hasSnapshot = stream.hasSnapshot) : next.Watched watcher payloads := by
  refine ⟨watchers, ?_, ?_, ?_, ?_⟩
  · rw [id]
    exact watched.told
  · rw [id, interrupted]
    exact watched.gap
  · rw [snapshot]
    exact watched.snapshot
  · rw [interrupted, snapshot]
    exact watched.empty

/-- A call that starts or stops sending to a watcher. -/
def Concerns (watcher : WatcherId) : Call → Prop
  | .watch other | .unwatch other => other = watcher
  | .receive _ | .interrupt _ => False

/-- Calls are made one after the other. -/
theorem after_cons (call : Call) (rest : List Call) (stream : Stream) (sent : List Sending) :
    Stream.after (call :: rest) (stream, sent) =
      Stream.after rest ((stream.call call).1, sent ++ (stream.call call).2) := rfl

/-- What was sent before some calls comes before what they send. -/
theorem after_sent (calls : List Call) (stream : Stream) (sent : List Sending) :
    Stream.after calls (stream, sent) =
      ((Stream.after calls (stream, [])).1, sent ++ (Stream.after calls (stream, [])).2) := by
  induction calls generalizing stream sent with
  | nil => exact Prod.ext rfl (List.append_nil _).symm
  | cons call rest ih =>
      rw [after_cons, after_cons, ih, ih (stream.call call).1 ([] ++ (stream.call call).2),
        List.append_assoc, List.nil_append]

/-- A stream has a snapshot once it has received one and since the last gap. -/
theorem hasSnapshot_receive {stream : Stream} {message : Message}
    (first : stream.hasSnapshot = false → message.type = .snapshot) :
    (stream.receive message).1.hasSnapshot = true := by
  cases present : stream.hasSnapshot with
  | true => simp only [Stream.receive, present, Bool.true_or]
  | false => simp only [Stream.receive, first present, decide_true, Bool.or_true]

/-- A promise kept over all calls is kept over the first of them. -/
theorem SnapshotFirst.of_append {awaiting : Bool} {first second : List Call}
    (promised : SnapshotFirst awaiting (first ++ second)) : SnapshotFirst awaiting first := by
  induction first generalizing awaiting with
  | nil => trivial
  | cons call rest ih =>
      cases call with
      | receive message => exact ⟨promised.1, ih promised.2⟩
      | interrupt | watch | unwatch => exact ih promised

/-- A stream expects a snapshot exactly when its receiver is promised one. -/
theorem SnapshotFirst.after {first second : List Call} {stream : Stream} {sent : List Sending}
    (promised : SnapshotFirst (!stream.hasSnapshot) (first ++ second)) :
    SnapshotFirst (!(Stream.after first (stream, sent)).1.hasSnapshot) second := by
  induction first generalizing stream sent with
  | nil => exact promised
  | cons call rest ih =>
      rw [after_cons]
      cases call with
      | receive message =>
          obtain ⟨snapshot, promised⟩ := promised
          have present : (stream.call (.receive message)).1.hasSnapshot = true :=
            hasSnapshot_receive fun absent => snapshot (by rw [absent, Bool.not_false])
          refine ih ?_
          rw [present, Bool.not_true]
          exact promised
      | interrupt gap => exact ih promised
      | watch other => exact ih promised
      | unwatch other => exact ih promised

/-- What calls that are not about a watcher send it. -/
theorem Watched.after {calls : List Call} {stream : Stream} {watcher : WatcherId}
    {payloads : List Payload} (watched : stream.Watched watcher payloads)
    (promised : SnapshotFirst (!stream.hasSnapshot) calls)
    (aside : ∀ call ∈ calls, ¬ Concerns watcher call) :
    (Stream.after calls (stream, [])).1.Watched watcher
        (payloads ++ sentTo watcher (Stream.after calls (stream, [])).2) ∧
      books (sentTo watcher (Stream.after calls (stream, [])).2) =
        (received calls).map (makeBook stream.id) := by
  induction calls generalizing stream payloads with
  | nil =>
      refine ⟨?_, rfl⟩
      rw [show sentTo watcher (Stream.after [] (stream, [])).2 = [] from rfl, List.append_nil]
      exact watched
  | cons call rest ih =>
      have others : ∀ call ∈ rest, ¬ Concerns watcher call := fun call member =>
        aside call (List.mem_cons_of_mem _ member)
      have own := aside call List.mem_cons_self
      rw [after_cons, after_sent, List.nil_append]
      dsimp only
      rw [sentTo_append, ← List.append_assoc, books_append]
      cases call with
      | receive message =>
          obtain ⟨snapshot, promised⟩ := promised
          have first : stream.hasSnapshot = false → message.type = .snapshot := fun absent =>
            snapshot (by rw [absent, Bool.not_false])
          have present : (stream.call (.receive message)).1.hasSnapshot = true :=
            hasSnapshot_receive first
          obtain ⟨watched', sent⟩ := ih (watched.receive first)
            (by rw [show (stream.receive message).1.hasSnapshot = true from present,
              Bool.not_true]; exact promised) others
          refine ⟨watched', ?_⟩
          have one : books (sentTo watcher (stream.receive message).2) =
              [makeBook stream.id message] := by
            rw [sentTo_receive watched.watching, books_append]
            split <;> rfl
          rw [show (stream.call (.receive message)) = stream.receive message from rfl, one, sent]
          rfl
      | interrupt gap =>
          obtain ⟨watched', sent⟩ := ih (watched.interrupt gap) promised others
          refine ⟨watched', ?_⟩
          have none : books (sentTo watcher (stream.interrupt gap).2) = [] := by
            unfold Stream.interrupt
            rw [sentTo_sendLocked, if_pos watched.watching]
            split <;> rfl
          rw [show (stream.call (.interrupt gap)) = stream.interrupt gap from rfl, none, sent]
          rfl
      | watch other =>
          have quiet : sentTo watcher (stream.watch other).2 = [] := by
            unfold Stream.watch
            rw [sentTo_map, if_neg (Ne.symm own)]
          have stays : watcher ∈ (stream.watch other).1.watchers := by
            unfold Stream.watch
            refine List.mem_append_left _ (List.mem_filter.mpr ⟨watched.watching, ?_⟩)
            exact decide_eq_true (Ne.symm own)
          obtain ⟨watched', sent⟩ := ih (watched.aside stays rfl rfl rfl) promised others
          rw [show (stream.call (.watch other)) = stream.watch other from rfl, quiet, sent,
            List.append_nil]
          exact ⟨watched', rfl⟩
      | unwatch other =>
          have stays : watcher ∈ (stream.unwatch other).1.watchers := by
            unfold Stream.unwatch
            refine List.mem_filter.mpr ⟨watched.watching, ?_⟩
            exact decide_eq_true (Ne.symm own)
          obtain ⟨watched', sent⟩ := ih (watched.aside stays rfl rfl rfl) promised others
          rw [show (stream.call (.unwatch other)) = stream.unwatch other from rfl,
            show sentTo watcher (stream.unwatch other).2 = [] from rfl, sent, List.append_nil]
          exact ⟨watched', rfl⟩

/-- What is sent to all watchers is one payload. -/
theorem eq_of_mem_sendLocked {stream : Stream} {watcher : WatcherId} {payload shared : Payload}
    (member : payload ∈ sentTo watcher (stream.sendLocked shared)) : payload = shared := by
  rw [sentTo_sendLocked] at member
  split at member
  · exact List.mem_singleton.mp member
  · exact (List.not_mem_nil member).elim

/-- A call that is not about a watcher sends it no description of the stream. -/
theorem undescribed_call {stream : Stream} {watcher : WatcherId} {call : Call}
    (aside : ¬ Concerns watcher call) {payload : Payload}
    (member : payload ∈ sentTo watcher (stream.call call).2) (info : Wire.StreamInfo) :
    payload ≠ .streamInfo info := by
  cases call with
  | receive message =>
      rw [show (stream.call (.receive message)).2 = (stream.receive message).2 from rfl,
        Stream.receive, sentTo_append] at member
      rcases List.mem_append.mp member with back | book
      · split at back
        · rw [eq_of_mem_sendLocked back]
          exact fun same => by cases same
        · exact (List.not_mem_nil back).elim
      · rw [eq_of_mem_sendLocked book]
        exact fun same => by cases same
  | interrupt gap =>
      rw [eq_of_mem_sendLocked member]
      cases gap with
      | disconnected | resubscribing => exact fun same => by cases same
  | watch other =>
      rw [show (stream.call (.watch other)).2 = (stream.watch other).2 from rfl, Stream.watch,
        sentTo_map, if_neg (Ne.symm aside)] at member
      exact (List.not_mem_nil member).elim
  | unwatch other => exact (List.not_mem_nil member).elim

/-- Neither do several. -/
theorem undescribed_after {stream : Stream} {watcher : WatcherId} {calls : List Call}
    (aside : ∀ call ∈ calls, ¬ Concerns watcher call) {payload : Payload}
    (member : payload ∈ sentTo watcher (Stream.after calls (stream, [])).2)
    (info : Wire.StreamInfo) : payload ≠ .streamInfo info := by
  induction calls generalizing stream with
  | nil => exact (List.not_mem_nil member).elim
  | cons call rest ih =>
      rw [after_cons, after_sent, List.nil_append, sentTo_append] at member
      rcases List.mem_append.mp member with first | later
      · exact undescribed_call (aside call List.mem_cons_self) first info
      · exact ih (fun call member => aside call (List.mem_cons_of_mem _ member)) later

/-- What a stream's flags say of the calls so far. -/
structure Recalls (stream : Stream) (calls : List Call) : Prop where
  interrupted : stream.interrupted = (openGap calls).isSome
  status : ∀ gap, openGap calls = some gap →
    ∃ status, stream.gapStatus = some (.feedStatus status) ∧ status.state = gapState gap
  snapshot : openGap calls = none → stream.hasSnapshot = begun (received calls)
  empty : stream.interrupted = true → stream.hasSnapshot = false

namespace Recalls

variable {stream : Stream} {calls : List Call}

/-- The stream recalls the message it just received. -/
theorem receive (recalls : stream.Recalls calls) {message : Message}
    (first : stream.hasSnapshot = false → message.type = .snapshot) :
    (stream.receive message).1.Recalls (calls ++ [.receive message]) := by
  have open_eq : openGap (calls ++ [.receive message]) =
      if message.type = .snapshot then none else openGap calls := by
    rw [openGap, List.foldl_append]
    rfl
  have received_eq : begun (received (calls ++ [.receive message])) =
      (begun (received calls) || message.type = .snapshot) := by
    rw [received, List.filterMap_append, begun, List.any_append]
    simp only [begun, received, List.filterMap_cons, List.filterMap_nil, List.any_cons,
      List.any_nil, Bool.or_false]
  refine ⟨?_, fun gap told => ?_, fun none => ?_, fun interrupted => ?_⟩
  · rw [open_eq]
    by_cases snapshot : message.type = .snapshot
    · simp only [Stream.receive, snapshot, ↓reduceIte, ne_eq, not_true_eq_false, decide_false,
        Bool.and_false, Option.isSome_none]
    · simp only [Stream.receive, snapshot, ↓reduceIte, ne_eq, not_false_eq_true, decide_true,
        Bool.and_true, recalls.interrupted]
  · rw [open_eq] at told
    split at told
    · contradiction
    · exact recalls.status gap told
  · rw [received_eq, hasSnapshot_receive first]
    rw [open_eq] at none
    split at none
    · rename_i snapshot
      simp only [snapshot, decide_true, Bool.or_true]
    · rename_i update
      have present : stream.hasSnapshot = true :=
        Bool.eq_true_of_not_eq_false fun absent => update (first absent)
      rw [← recalls.snapshot none, present, Bool.true_or]
  · obtain ⟨before, update⟩ := Bool.and_eq_true_iff.mp interrupted
    exact (of_decide_eq_true update (first (recalls.empty before))).elim

/-- The stream recalls the gap it was just told of. -/
theorem interrupt (stream : Stream) (calls : List Call) (gap : Gap) :
    (stream.interrupt gap).1.Recalls (calls ++ [.interrupt gap]) := by
  have open_eq : openGap (calls ++ [.interrupt gap]) = some gap := by
    rw [openGap, List.foldl_append]
    rfl
  refine ⟨?_, fun other told => ?_, fun none => ?_, fun _ => rfl⟩
  · rw [open_eq]
    rfl
  · rw [open_eq] at told
    obtain rfl := Option.some.inj told
    cases gap with
    | disconnected => exact ⟨_, rfl, rfl⟩
    | resubscribing => exact ⟨_, rfl, rfl⟩
  · rw [open_eq] at none
    contradiction

/-- A call that is neither a message nor a gap. -/
theorem aside (recalls : stream.Recalls calls) {next : Stream} {call : Call}
    (quiet : openGap (calls ++ [call]) = openGap calls)
    (nothing : received (calls ++ [call]) = received calls)
    (interrupted : next.interrupted = stream.interrupted)
    (status : next.gapStatus = stream.gapStatus)
    (snapshot : next.hasSnapshot = stream.hasSnapshot) : next.Recalls (calls ++ [call]) := by
  refine ⟨?_, fun gap told => ?_, fun none => ?_, fun still => ?_⟩
  · rw [interrupted, quiet]
    exact recalls.interrupted
  · rw [status]
    exact recalls.status gap (quiet ▸ told)
  · rw [snapshot, nothing]
    exact recalls.snapshot (quiet ▸ none)
  · rw [snapshot]
    exact recalls.empty (interrupted ▸ still)

/-- After any calls the stream recalls all of them. -/
theorem after {more : List Call} {sent : List Sending} (recalls : stream.Recalls calls)
    (promised : SnapshotFirst (!stream.hasSnapshot) more) :
    (Stream.after more (stream, sent)).1.Recalls (calls ++ more) := by
  induction more generalizing stream calls sent with
  | nil =>
      rw [List.append_nil]
      exact recalls
  | cons call rest ih =>
      rw [after_cons, List.append_cons]
      cases call with
      | receive message =>
          obtain ⟨snapshot, promised⟩ := promised
          have first : stream.hasSnapshot = false → message.type = .snapshot := fun absent =>
            snapshot (by rw [absent, Bool.not_false])
          refine ih (recalls.receive first) ?_
          rw [show (stream.call (.receive message)).1.hasSnapshot = true from
            hasSnapshot_receive first, Bool.not_true]
          exact promised
      | interrupt gap => exact ih (interrupt stream calls gap) promised
      | watch other =>
          refine ih (recalls.aside ?_ ?_ rfl rfl rfl) promised
          · rw [openGap, List.foldl_append]
            rfl
          · rw [received, List.filterMap_append]
            exact List.append_nil _
      | unwatch other =>
          refine ih (recalls.aside ?_ ?_ rfl rfl rfl) promised
          · rw [openGap, List.foldl_append]
            rfl
          · rw [received, List.filterMap_append]
            exact List.append_nil _

/-- A new stream recalls that nothing happened. -/
theorem new (id : SubscriptionId) (venue : String) (book : BookSpec) (precision : PairPrecision) :
    (Stream.new id venue book precision).Recalls [] :=
  ⟨rfl, nofun, fun _ => rfl, nofun⟩

end Recalls

/-- No call changes what the stream says of itself. -/
theorem after_info (calls : List Call) (start : Stream × List Sending) :
    (Stream.after calls start).1.info = start.1.info := by
  induction calls generalizing start with
  | nil => rfl
  | cons call rest ih =>
      rw [show Stream.after (call :: rest) start = Stream.after rest
        ((start.1.call call).1, start.2 ++ (start.1.call call).2) from rfl, ih]
      cases call <;> rfl

/-- What a new watcher is told first. -/
theorem Recalls.watched {stream : Stream} {calls : List Call} (recalls : stream.Recalls calls)
    (watcher : WatcherId) :
    (stream.watch watcher).1.Watched watcher (stream.streamInfo :: stream.opening) ∧
      match openGap calls with
      | some gap => ∃ status, stream.opening = [.feedStatus status] ∧ status.state = gapState gap
      | none =>
          if begun (received calls) then
            ∃ snapshot, stream.opening = [.book snapshot] ∧ snapshot.kind = .snapshot
          else stream.opening = [] := by
  have watching : watcher ∈ (stream.watch watcher).1.watchers :=
    List.mem_append_right _ (List.mem_singleton_self watcher)
  have described : Told stream.id [stream.streamInfo] := by
    have nothing : Told stream.id [] := ⟨.nil, fun past _ _ split =>
      (List.append_ne_nil_of_right_ne_nil past (List.cons_ne_nil _ _) split.symm).elim⟩
    exact nothing.concat trivial nofun
  have calm : ¬ GapTold stream.id [stream.streamInfo] := by
    intro told
    have alone : GapTold stream.id ([] ++ [stream.streamInfo]) := told
    rcases Told.gapTold_concat.mp alone with drops | ⟨⟨past, _, _, split, _⟩, _⟩
    · exact drops.elim
    · exact List.append_ne_nil_of_right_ne_nil past (List.cons_ne_nil _ _) split.symm
  cases told : openGap calls with
  | some gap =>
      have interrupted : stream.interrupted = true := by
        rw [recalls.interrupted, told]
        rfl
      obtain ⟨status, known, state⟩ := recalls.status gap told
      have opening : stream.opening = [.feedStatus status] := by
        unfold Stream.opening
        rw [dif_pos interrupted]
        simp only [known, Option.get_some]
      have drops : Drops (.feedStatus status) := by
        cases gap with
        | disconnected => exact Or.inl state
        | resubscribing => exact Or.inr state
      have ends : status.state ≠ .live := by
        rw [state]
        cases gap <;> nofun
      refine ⟨?_, status, opening, state⟩
      rw [opening]
      refine ⟨watching, ?_, ?_, fun present => ?_, recalls.empty⟩
      · refine described.concat (fun live => (ends live).elim) fun other named => ?_
        obtain rfl := Payload.feedStatus.inj named
        exact ends
      · have gapped : GapTold stream.id ([stream.streamInfo] ++ [.feedStatus status]) :=
          Told.gapTold_concat.mpr (Or.inl drops)
        exact iff_of_true gapped interrupted
      · exact (Bool.false_ne_true ((recalls.empty interrupted).symm.trans present)).elim
  | none =>
      have settled : stream.interrupted = false := by
        rw [recalls.interrupted, told]
        rfl
      have snapshot := recalls.snapshot told
      have still : ¬ stream.interrupted = true := by
        rw [settled]
        exact Bool.false_ne_true
      dsimp only
      by_cases present : stream.hasSnapshot = true
      · have opening : stream.opening = [.book stream.snapshotLocked] := by
          unfold Stream.opening
          rw [dif_neg still, if_pos present]
        rw [← snapshot, if_pos present, opening]
        refine ⟨⟨watching, ?_, ?_, fun _ => ?_, recalls.empty⟩, _, rfl, rfl⟩
        · exact described.concat ⟨calm, fun delta => Wire.Kind.noConfusion delta⟩ nofun
        · have outside : ¬ GapTold stream.id ([stream.streamInfo] ++
              [.book stream.snapshotLocked]) := by
            intro gapped
            rcases Told.gapTold_concat.mp gapped with drops | ⟨before, _⟩
            · exact drops.elim
            · exact calm before
          exact iff_of_false outside still
        · exact ⟨stream.snapshotLocked, List.mem_singleton_self _, rfl⟩
      · have opening : stream.opening = [] := by
          unfold Stream.opening
          rw [dif_neg still, if_neg present]
        rw [← snapshot, if_neg present, opening]
        exact ⟨⟨watching, described, iff_of_false calm still, fun held => (present held).elim,
          recalls.empty⟩, rfl⟩

/-- **What a watcher is told of the feed.** However receiving, gaps, watching and
unwatching are interleaved, what a watcher is sent from a watch on, until the next call
about it, begins with a description of the stream. Then comes the status of the gap in
progress, if there is one, or else a snapshot, if one was received. From then on there is
no change before a snapshot, no book from the status of a gap until the stream is said to be
back, and that is said only during a gap and just before a snapshot. Every message received
meanwhile is sent once, in order, and the stream is not described again. -/
theorem watcher_told (id : SubscriptionId) (venue : String) (book : BookSpec)
    (precision : PairPrecision) (before during : List Call) (watcher : WatcherId)
    (promised : SnapshotFirst true (before ++ .watch watcher :: during))
    (aside : ∀ call ∈ during, ¬ Concerns watcher call) :
    let stream := (Stream.after before (Stream.new id venue book precision, [])).1
    let payloads := sentTo watcher (Stream.after (.watch watcher :: during) (stream, [])).2
    Told id payloads ∧ ∃ opening rest,
      payloads = .streamInfo (makeStreamInfo id venue book precision) :: opening ++ rest ∧
      (match openGap before with
        | some gap => ∃ status, opening = [.feedStatus status] ∧ status.state = gapState gap
        | none =>
            if begun (received before) then
              ∃ snapshot, opening = [.book snapshot] ∧ snapshot.kind = .snapshot
            else opening = []) ∧
      books rest = (received during).map (makeBook id) ∧
      ∀ payload ∈ rest, ∀ info, payload ≠ .streamInfo info := by
  intro stream payloads
  have info : stream.info = makeStreamInfo id venue book precision := after_info before _
  have named : stream.id = id := congrArg Wire.StreamInfo.streamId info
  have recalls : stream.Recalls before :=
    (Recalls.new id venue book precision).after promised.of_append
  obtain ⟨watched, opening⟩ := recalls.watched watcher
  have fresh : SnapshotFirst (!(Stream.new id venue book precision).hasSnapshot)
    (before ++ .watch watcher :: during) := promised
  have joined : SnapshotFirst (!stream.hasSnapshot) (.watch watcher :: during) := fresh.after
  have expects : SnapshotFirst (!(stream.watch watcher).1.hasSnapshot) during := joined
  obtain ⟨watched, sent⟩ := watched.after expects aside
  have split : payloads = stream.streamInfo :: stream.opening ++
      sentTo watcher (Stream.after during ((stream.watch watcher).1, [])).2 := by
    have first : sentTo watcher (stream.watch watcher).2 =
        stream.streamInfo :: stream.opening := by
      unfold Stream.watch
      rw [sentTo_map, if_pos rfl]
    rw [show payloads = sentTo watcher (Stream.after during
      ((stream.watch watcher).1, [] ++ (stream.watch watcher).2)).2 from rfl, after_sent,
      sentTo_append, List.nil_append, first]
  have told : Told id payloads := by
    have all := watched.told
    rw [← split] at all
    have same := congrArg Wire.StreamInfo.streamId
      (after_info during ((stream.watch watcher).1, []))
    have kept : (Stream.after during ((stream.watch watcher).1, [])).1.id = id :=
      same.trans named
    rwa [kept] at all
  refine ⟨told, stream.opening,
    sentTo watcher (Stream.after during ((stream.watch watcher).1, [])).2, ?_, opening, ?_, ?_⟩
  · rw [split, Stream.streamInfo, info]
  · rw [sent]
    exact congrArg (fun id => (received during).map (makeBook id)) named
  · exact fun payload member => undescribed_after aside member

/-- A watcher that joins during a gap, after a first snapshot. -/
theorem watcher_told_gap :
    let snapshot : Message := ⟨.snapshot, 0, 0, 0, "BTC/USD", [⟨10, 1⟩], []⟩
    let update : Message := ⟨.update, 0, 0, 0, "BTC/USD", [⟨10, 0⟩], []⟩
    let stream := (Stream.after [.receive snapshot, .interrupt .resubscribing]
      (Stream.new 0x10000 "kraken" ⟨"BTC/USD", 10⟩ ⟨1, 8⟩, [])).1
    let payloads := sentTo 1 (Stream.after
      [.watch 1, .receive snapshot, .receive update, .interrupt .disconnected] (stream, [])).2
    Told 0x10000 payloads ∧ payloads.map Payload.fieldNumber = [3, 5, 5, 4, 4, 5] := by
  intro snapshot update stream payloads
  obtain ⟨told, _⟩ := watcher_told 0x10000 "kraken" ⟨"BTC/USD", 10⟩ ⟨1, 8⟩
    [.receive snapshot, .interrupt .resubscribing]
    [.receive snapshot, .receive update, .interrupt .disconnected] 1 (by decide) (by
      intro call member concerns
      simp only [List.mem_cons, List.not_mem_nil, or_false] at member
      rcases member with rfl | rfl | rfl
      · exact concerns
      · exact concerns
      · exact concerns)
  exact ⟨told, by decide⟩

end Stream

end DataFeed.Frontend
