import DataFeed.Core.Document
import DataFeed.Foundation.OrderedMap
import DataFeed.L2.Message
import DataFeed.Venue.Manager

/-! # Kraken's REST lookups

The public endpoint answers with an envelope: an array of errors, and the result. The
lookups index it without checking what it is, so they survive exactly the answers that
are laid out as expected; any other body takes the process down.
-/

namespace DataFeed.Kraken

open Foundation DataFeed.Core L2 Venue

/-- The document a body is parsed to. A body that is no JSON leaves it null. -/
def parseBody (parse : String → Option Document) (body : String) : Document :=
  (parse body).getD .null

/-- The error Kraken answers a query for a pair it does not list with. -/
def unknownPairError : String := "EQuery:Unknown asset pair"

def joinSymbols (symbols : List String) : String := ",".intercalate symbols

/-- Whether Kraken's error envelope says one of the requested pairs is unknown. -/
def reportsUnknownPair (document : Document) : Bool :=
  match document.member "error" with
  | some (.array errors) => errors.any fun error =>
      match error with
      | .string text => unknownPairError.toList.isPrefixOf (cString text).toList
      | _ => false
  | _ => false

/-- One error, as it is reported. -/
def errorLine : Document → String
  | .string text => "\t" ++ cString text ++ "\n"
  | _ => "\t[empty error field]\n"

/-- Throws if the envelope holds errors. -/
def throwOnRestError (document : Document) (context : String) : Lookup Unit :=
  (document.index "error").bind fun errors =>
    errors.elements.bind fun errors =>
      if errors.isEmpty then .ok ()
      else .error (.thrown (context ++ String.join (errors.map errorLine)))

abbrev PairPrecisionMap := OrderedMap String PairPrecision (· < ·)

/-- The precisions of pairs, as the result has them. The first one of a name counts. -/
def readPrecisions (result : Document) :
    List String → PairPrecisionMap → Lookup PairPrecisionMap
  | [], precision => .ok precision
  | symbol :: rest, precision =>
      (result.hasMember (cString symbol)).bind fun listed =>
        if listed then
          (result.index (cString symbol)).bind fun pair =>
            ((pair.index "pair_decimals").bind Document.getUint).bind fun priceDecimals =>
              ((pair.index "lot_decimals").bind Document.getUint).bind fun qtyDecimals =>
                readPrecisions result rest
                  (if (precision.find? symbol).isSome then precision
                    else precision.insert symbol ⟨priceDecimals, qtyDecimals⟩)
        else
          .error (.unknownSymbol
            ("Kraken AssetPairs response is missing '" ++ symbol ++ "'"))

/-- What `FetchPairPrecision` makes of an answer. -/
def fetchPairPrecision (document : Document) (symbols : List String) :
    Lookup PairPrecisionMap :=
  if reportsUnknownPair document then
    .error (.unknownSymbol ("Kraken does not list " ++ joinSymbols symbols))
  else
    (throwOnRestError document "Errors when requesting asset pair precision: ").bind fun _ =>
      (document.index "result").bind fun result => readPrecisions result symbols .empty

/-- Whether a pair has the status of one that is traded. -/
def isOnline (pair : Document) : Lookup Bool :=
  (pair.hasMember "status").bind fun has =>
    if has then ((pair.index "status").bind Document.getString).map (· == "online") else .ok false

/-- The names of the pairs that are online. -/
def onlineNames : List (String × Document) → Lookup (List String)
  | [] => .ok []
  | pair :: rest =>
      (isOnline pair.2).bind fun online =>
        (onlineNames rest).map fun names =>
          if online then cString pair.1 :: names else names

/-- What `FetchTradablePairs` makes of an answer. -/
def fetchTradablePairs (document : Document) : Lookup (List String) :=
  (throwOnRestError document "Errors when requesting asset pairs: ").bind fun _ =>
    (document.index "result").bind fun result =>
      result.members.bind fun pairs =>
        (onlineNames pairs).map fun names =>
          names.mergeSort fun first second => decide (first ≤ second)

/-- A pair has both of its precisions. -/
def HasPrecision (pair : Document) : Prop :=
  ∃ price quantity, pair.member "pair_decimals" = some (.number (some price)) ∧
    pair.member "lot_decimals" = some (.number (some quantity))

/-- A pair is an object, and its status, if it has one, is a text. -/
def HasStatus (pair : Document) : Prop :=
  pair.isObject = true ∧
    ∀ status, pair.member "status" = some status → ∃ text, status = .string text

/-- What is said of a pair. -/
def IsPair (pair : Document) : Prop := HasPrecision pair ∧ HasStatus pair

/-- An object whose members all are what is said of them. -/
def HoldsOnly (kind : Document → Prop) (result : Document) : Prop :=
  ∃ members, result = .object members ∧ ∀ entry ∈ members, kind entry.2

/-- A body that has an array of errors, and a result of which something holds if that is
empty. -/
def Envelope (document : Document) (holds : Document → Prop) : Prop :=
  ∃ errors, document.member "error" = some (.array errors) ∧
    (errors = [] → ∃ result, document.member "result" = some result ∧ holds result)

/-- A body that is an answer about pairs: its result, unless it reports errors, is an object
whose members are pairs. -/
def IsAnswer (document : Document) : Prop := Envelope document (HoldsOnly IsPair)

/-- Requested pairs can be looked up and have their precisions, up to the first that is not
listed. -/
def Precise (result : Document) : List String → Prop
  | [] => True
  | symbol :: rest => result.isObject = true ∧
      ∀ pair, result.member (cString symbol) = some pair → HasPrecision pair ∧ Precise result rest

/-- The body of an answer from which the precisions of some pairs can be read. -/
def PrecisionsReadable (document : Document) (symbols : List String) : Prop :=
  Envelope document fun result => Precise result symbols

/-- The body of an answer from which the pairs that are traded can be read. -/
def PairsReadable (document : Document) : Prop := Envelope document (HoldsOnly HasStatus)

/-- A lookup returns or throws, and reports a body that is no answer as the venue's
failure. -/
def Survives {Result : Type} (document : Document) (fetched : Lookup Result) : Prop :=
  fetched ≠ .error .aborted ∧ (¬ IsAnswer document →
    ∃ what, callVenue fetched = some (.error ⟨.venueFailed, what⟩))

section Envelope

variable {document : Document} {context : String}

/-- The envelope is checked on an object with an array of errors, or not at all. -/
theorem throwOnRestError_cases :
    (throwOnRestError document context = .error .aborted ∧
      ∀ errors, document.member "error" ≠ some (.array errors)) ∨
    (throwOnRestError document context = .ok () ∧
      document.member "error" = some (.array [])) ∨
    ∃ error rest what, throwOnRestError document context = .error (.thrown what) ∧
      document.member "error" = some (.array (error :: rest)) := by
  unfold throwOnRestError Document.index
  cases document.member "error" with
  | none => exact .inl ⟨rfl, fun _ same => (Option.some_ne_none _ same.symm).elim⟩
  | some errors =>
      cases errors with
      | array errors =>
          cases errors with
          | nil => exact .inr (.inl ⟨rfl, rfl⟩)
          | cons error rest => exact .inr (.inr ⟨error, rest, _, rfl, rfl⟩)
      | null | boolean | number | string | object =>
          exact .inl ⟨rfl, fun _ same => by cases same⟩

/-- A venue that reports errors is asked no more. -/
theorem envelope_of_errors {error : Document} {rest : List Document}
    (errors : document.member "error" = some (.array (error :: rest)))
    (holds : Document → Prop) : Envelope document holds :=
  ⟨_, errors, fun none => (List.cons_ne_nil _ _ none).elim⟩

/-- Without errors it is the result that counts. -/
theorem envelope_iff_result (none : document.member "error" = some (.array []))
    {holds : Document → Prop} :
    Envelope document holds ↔ ∃ result, document.member "result" = some result ∧ holds result := by
  constructor
  · rintro ⟨errors, here, result⟩
    obtain rfl := Document.array.inj (Option.some.inj (here.symm.trans none))
    exact result rfl
  · exact fun result => ⟨[], none, fun _ => result⟩

theorem Envelope.mono {holds also : Document → Prop} (envelope : Envelope document holds)
    (implies : ∀ result, holds result → also result) : Envelope document also := by
  obtain ⟨errors, here, result⟩ := envelope
  refine ⟨errors, here, fun none => ?_⟩
  obtain ⟨result, found, held⟩ := result none
  exact ⟨result, found, implies result held⟩

/-- A pair is reported as unknown among other errors only. -/
theorem reportsUnknownPair_eq_true (reports : reportsUnknownPair document = true) :
    ∃ error rest, document.member "error" = some (.array (error :: rest)) := by
  unfold reportsUnknownPair at reports
  split at reports
  · rename_i errors here
    cases errors with
    | nil => contradiction
    | cons error rest => exact ⟨error, rest, here⟩
  · contradiction

/-- A lookup of the result ends well exactly if the envelope can be looked at and the result
can be read. -/
theorem envelope_ne_aborted {Result : Type} {read : Document → Lookup Result} :
    ((throwOnRestError document context).bind fun _ => (document.index "result").bind read) ≠
        .error .aborted ↔
      Envelope document fun result => read result ≠ .error .aborted := by
  rcases @throwOnRestError_cases document context with
    ⟨aborts, bad⟩ | ⟨passes, none⟩ | ⟨error, rest, what, throws, errors⟩
  · rw [aborts]
    exact ⟨fun survives => (survives rfl).elim, fun ⟨errors, here, _⟩ => (bad errors here).elim⟩
  · rw [passes, envelope_iff_result none, Document.index]
    cases document.member "result" with
    | none => exact ⟨fun survives => (survives rfl).elim,
        fun ⟨_, found, _⟩ => (Option.some_ne_none _ found.symm).elim⟩
    | some result => exact ⟨fun survives => ⟨result, rfl, survives⟩,
        fun ⟨_, found, reads⟩ => Option.some.inj found ▸ reads⟩
  · rw [throws]
    exact ⟨fun _ => envelope_of_errors errors _, fun _ same => by cases same⟩

/-- A lookup throws what the venue reports, if reading the result throws nothing. -/
theorem errors_of_thrown {Result : Type} {read : Document → Lookup Result} {what : String}
    (quiet : ∀ result, read result ≠ .error (.thrown what))
    (thrown : ((throwOnRestError document context).bind fun _ =>
      (document.index "result").bind read) = .error (.thrown what)) :
    ∃ error rest, document.member "error" = some (.array (error :: rest)) := by
  rcases @throwOnRestError_cases document context with
    ⟨aborts, -⟩ | ⟨passes, -⟩ | ⟨error, rest, -, -, errors⟩
  · rw [aborts] at thrown
    cases thrown
  · rw [passes, Except.bind, Document.index] at thrown
    cases here : document.member "result" with
    | none =>
        rw [here] at thrown
        cases thrown
    | some result =>
        rw [here] at thrown
        exact (quiet result thrown).elim
  · exact ⟨error, rest, errors⟩

end Envelope

/-- A number is read of a member that is one. -/
theorem getUint_ne_aborted {pair : Document} {name : String} :
    (pair.index name).bind Document.getUint ≠ .error .aborted ↔
      ∃ value, pair.member name = some (.number (some value)) := by
  unfold Document.index
  cases pair.member name with
  | none => simp only [Except.bind, ne_eq, not_true_eq_false, reduceCtorEq, exists_false]
  | some found =>
      cases found with
      | number value =>
          cases value with
          | none => simp only [Except.bind, Document.getUint, ne_eq, not_true_eq_false,
              Option.some.injEq, Document.number.injEq, reduceCtorEq, exists_false]
          | some value => simp only [Except.bind, Document.getUint, ne_eq, reduceCtorEq,
              not_false_eq_true, Option.some.injEq, Document.number.injEq, exists_eq']
      | null | boolean | string | array | object =>
          simp only [Except.bind, Document.getUint, ne_eq, not_true_eq_false, Option.some.injEq,
            reduceCtorEq, exists_false]

/-- The number that a member is. -/
theorem getUint_eq_ok {pair : Document} {name : String} {value : UInt32}
    (here : pair.member name = some (.number (some value))) :
    (pair.index name).bind Document.getUint = .ok value := by
  rw [Document.index, here]
  rfl

/-- Reading a number throws nothing. -/
theorem getUint_ne_thrown {pair : Document} {name what : String} :
    (pair.index name).bind Document.getUint ≠ .error (.thrown what) := by
  unfold Document.index
  cases pair.member name with
  | none => exact fun same => by cases same
  | some found =>
      cases found with
      | number value => cases value <;> exact fun same => by cases same
      | null | boolean | string | array | object => exact fun same => by cases same

/-- The precisions of listed pairs are read from an object whose pairs have them. -/
theorem readPrecisions_ne_aborted (result : Document) (symbols : List String)
    (precision : PairPrecisionMap) :
    readPrecisions result symbols precision ≠ .error .aborted ↔ Precise result symbols := by
  induction symbols generalizing precision with
  | nil => simp only [readPrecisions, Precise, ne_eq, reduceCtorEq, not_false_eq_true]
  | cons symbol rest ih =>
      rw [readPrecisions, Document.hasMember, Precise]
      by_cases isObject : result.isObject = true
      swap
      · rw [if_neg isObject]
        exact ⟨fun survives => (survives rfl).elim, fun precise => (isObject precise.1).elim⟩
      rw [if_pos isObject, Except.bind]
      cases listed : result.member (cString symbol) with
      | none => simp only [Option.isSome_none, Bool.false_eq_true, if_false, ne_eq, isObject,
          Except.error.injEq, reduceCtorEq, not_false_eq_true, IsEmpty.forall_iff, implies_true,
          and_self]
      | some pair =>
          have found : result.index (cString symbol) = .ok pair := by
            rw [Document.index, listed]
          simp only [Option.isSome_some, if_true, found]
          rw [Except.bind, bind_ne_error, getUint_ne_aborted]
          constructor
          · rintro ⟨⟨price, priced⟩, then_quantity⟩
            refine ⟨isObject, fun other same => ?_⟩
            obtain rfl := Option.some.inj same
            have quantity := then_quantity price (getUint_eq_ok priced)
            rw [bind_ne_error, getUint_ne_aborted] at quantity
            obtain ⟨⟨quantity, counted⟩, then_rest⟩ := quantity
            have later := then_rest quantity (getUint_eq_ok counted)
            exact ⟨⟨price, quantity, priced, counted⟩, (ih _).mp later⟩
          · rintro ⟨-, precise⟩
            obtain ⟨⟨price, quantity, priced, counted⟩, later⟩ := precise pair rfl
            refine ⟨⟨price, priced⟩, fun _ _ => ?_⟩
            rw [bind_ne_error, getUint_ne_aborted]
            exact ⟨⟨quantity, counted⟩, fun _ _ => (ih _).mpr later⟩

/-- Reading precisions throws nothing but that a pair is not listed. -/
theorem readPrecisions_ne_thrown (result : Document) (symbols : List String)
    (precision : PairPrecisionMap) (what : String) :
    readPrecisions result symbols precision ≠ .error (.thrown what) := by
  induction symbols generalizing precision with
  | nil => exact fun same => by cases same
  | cons symbol rest ih =>
      refine bind_ne_error.mpr ⟨?_, fun listed _ => ?_⟩
      · unfold Document.hasMember
        split <;> exact fun same => by cases same
      · split
        · refine bind_ne_error.mpr ⟨?_, fun pair _ => ?_⟩
          · unfold Document.index
            split <;> exact fun same => by cases same
          · refine bind_ne_error.mpr ⟨getUint_ne_thrown, fun price _ => ?_⟩
            exact bind_ne_error.mpr ⟨getUint_ne_thrown, fun quantity _ => ih _⟩
        · exact fun same => by cases same

/-- Whether it is online can be asked of an object whose status is a text. -/
theorem isOnline_ne_aborted {pair : Document} :
    isOnline pair ≠ .error .aborted ↔ HasStatus pair := by
  unfold isOnline HasStatus Document.hasMember
  by_cases isObject : pair.isObject = true
  · rw [if_pos isObject, Except.bind]
    cases here : pair.member "status" with
    | none => simp only [Option.isSome_none, Bool.false_eq_true, if_false, ne_eq, reduceCtorEq,
        not_false_eq_true, isObject, IsEmpty.forall_iff, implies_true, and_self]
    | some status =>
        rw [Option.isSome_some, if_pos rfl, map_ne_error, Document.index, here, Except.bind]
        cases status with
        | string text => simp only [Document.getString, ne_eq, reduceCtorEq, not_false_eq_true,
            isObject, Option.some.injEq, forall_eq', Document.string.injEq, exists_eq', and_self]
        | null | boolean | number | array | object =>
            simp only [Document.getString, ne_eq, not_true_eq_false, isObject, Option.some.injEq,
              forall_eq', reduceCtorEq, exists_false, and_false]
  · rw [if_neg isObject]
    simp only [Except.bind, ne_eq, not_true_eq_false, isObject, Bool.false_eq_true, false_and]

theorem isOnline_eq_ok {pair : Document} (status : HasStatus pair) :
    ∃ online, isOnline pair = .ok online := by
  obtain ⟨isObject, status⟩ := status
  unfold isOnline Document.hasMember
  rw [if_pos isObject, Except.bind]
  cases here : pair.member "status" with
  | none => exact ⟨false, rfl⟩
  | some found =>
      obtain ⟨text, rfl⟩ := status found here
      rw [Option.isSome_some, if_pos rfl, Document.index, here]
      exact ⟨_, rfl⟩

theorem onlineNames_ne_aborted (pairs : List (String × Document)) :
    onlineNames pairs ≠ .error .aborted ↔ ∀ pair ∈ pairs, HasStatus pair.2 := by
  induction pairs with
  | nil => simp only [onlineNames, ne_eq, reduceCtorEq, not_false_eq_true, List.not_mem_nil,
      IsEmpty.forall_iff, implies_true]
  | cons pair rest ih =>
      rw [onlineNames, bind_ne_error, isOnline_ne_aborted, List.forall_mem_cons]
      constructor
      · rintro ⟨status, later⟩
        refine ⟨status, ih.mp ?_⟩
        obtain ⟨online, answered⟩ := isOnline_eq_ok status
        exact map_ne_error.mp (later online answered)
      · rintro ⟨status, later⟩
        exact ⟨status, fun _ _ => map_ne_error.mpr (ih.mpr later)⟩

/-- Whether it is online is read or not, but throws nothing. -/
theorem isOnline_ne_thrown (pair : Document) (what : String) :
    isOnline pair ≠ .error (.thrown what) := by
  refine bind_ne_error.mpr ⟨?_, fun has _ => ?_⟩
  · unfold Document.hasMember
    split <;> exact fun same => by cases same
  · split
    · refine map_ne_error.mpr (bind_ne_error.mpr ⟨?_, fun status _ => ?_⟩)
      · unfold Document.index
        split <;> exact fun same => by cases same
      · cases status <;> exact fun same => by cases same
    · exact fun same => by cases same

theorem onlineNames_ne_thrown (pairs : List (String × Document)) (what : String) :
    onlineNames pairs ≠ .error (.thrown what) := by
  induction pairs with
  | nil => exact fun same => by cases same
  | cons pair rest ih =>
      exact bind_ne_error.mpr ⟨isOnline_ne_thrown pair.2 what, fun _ _ => map_ne_error.mpr ih⟩

/-- **What `FetchPairPrecision` needs of a body not to abort.** -/
theorem fetchPairPrecision_ne_aborted (document : Document) (symbols : List String) :
    fetchPairPrecision document symbols ≠ .error .aborted ↔
      PrecisionsReadable document symbols := by
  unfold fetchPairPrecision
  by_cases reports : reportsUnknownPair document = true
  · obtain ⟨error, rest, errors⟩ := reportsUnknownPair_eq_true reports
    rw [if_pos reports]
    exact ⟨fun _ => envelope_of_errors errors _, fun _ same => by cases same⟩
  · rw [if_neg reports, envelope_ne_aborted]
    simp only [readPrecisions_ne_aborted]
    rfl

/-- **What `FetchTradablePairs` needs of a body not to abort.** -/
theorem fetchTradablePairs_ne_aborted (document : Document) :
    fetchTradablePairs document ≠ .error .aborted ↔ PairsReadable document := by
  have reads (result : Document) : (result.members.bind fun pairs =>
      (onlineNames pairs).map fun names =>
        names.mergeSort fun first second => decide (first ≤ second)) ≠ .error .aborted ↔
      HoldsOnly HasStatus result := by
    cases result with
    | object pairs =>
        rw [Document.members, Except.bind, map_ne_error, onlineNames_ne_aborted]
        exact ⟨fun status => ⟨pairs, rfl, status⟩,
          fun ⟨_, same, status⟩ => Document.object.inj same ▸ status⟩
    | null | boolean | number | string | array =>
        exact ⟨fun survives => (survives rfl).elim, fun ⟨_, same, _⟩ => by cases same⟩
  rw [fetchTradablePairs, envelope_ne_aborted]
  simp only [reads]
  rfl

/-- A precision that is fetched in vain is the venue's failure if it reports errors only. -/
theorem errors_of_fetchPairPrecision {document : Document} {symbols : List String} {what : String}
    (thrown : fetchPairPrecision document symbols = .error (.thrown what)) :
    IsAnswer document := by
  unfold fetchPairPrecision at thrown
  split at thrown
  · cases thrown
  · obtain ⟨error, rest, errors⟩ := errors_of_thrown
      (fun result => readPrecisions_ne_thrown result symbols .empty what) thrown
    exact envelope_of_errors errors _

/-- Pairs that are fetched in vain are the venue's failure if it reports errors only. -/
theorem errors_of_fetchTradablePairs {document : Document} {what : String}
    (thrown : fetchTradablePairs document = .error (.thrown what)) : IsAnswer document := by
  have quiet : ∀ result : Document, (result.members.bind fun pairs =>
      (onlineNames pairs).map fun names =>
        names.mergeSort fun first second => decide (first ≤ second)) ≠ .error (.thrown what) := by
    intro result
    refine bind_ne_error.mpr ⟨?_, fun pairs _ => ?_⟩
    · cases result <;> exact fun same => by cases same
    · exact map_ne_error.mpr (onlineNames_ne_thrown pairs what)
  obtain ⟨error, rest, errors⟩ := errors_of_thrown quiet thrown
  exact envelope_of_errors errors _

/-- Requested pairs are precise where all that is listed are pairs. -/
theorem precise_of_holdsOnly {result : Document} (pairs : HoldsOnly IsPair result)
    (symbols : List String) : Precise result symbols := by
  obtain ⟨members, rfl, every⟩ := pairs
  induction symbols with
  | nil => trivial
  | cons symbol rest ih =>
      refine ⟨rfl, fun pair listed => ⟨?_, ih⟩⟩
      obtain ⟨entry, found, rfl⟩ := Option.map_eq_some_iff.mp listed
      exact (every entry (List.mem_of_find?_eq_some found)).1

/-- A lookup that survives an answer, and throws what is reported in one only, survives
exactly the answers. -/
theorem survives_iff {Result : Type} {document : Document} {fetched : Lookup Result}
    (returns : IsAnswer document → fetched ≠ .error .aborted)
    (reported : ∀ what, fetched = .error (.thrown what) → IsAnswer document) :
    Survives document fetched ↔ IsAnswer document := by
  constructor
  · rintro ⟨-, reports⟩
    by_contra nothing
    obtain ⟨what, failed⟩ := reports nothing
    unfold callVenue at failed
    split at failed
    · cases failed
    · cases failed
    · exact nothing (reported _ rfl)
    · cases failed
  · exact fun answer => ⟨returns answer, fun nothing => (nothing answer).elim⟩

/-- **Exactly which bodies Kraken's lookups survive.** For every body, however it is parsed,
and every list of symbols. A lookup returns or throws if and only if the body has an array of
errors and, if that is empty, a result that can be read: the precisions of the requested pairs
up to the first that it does not list, or the status of every pair. It also reports a body
that is no answer about pairs as the venue's failure if and only if the body is one: nothing
that is looked at tells another body, such as that of another endpoint, from an answer in
which a pair is missing. -/
theorem lookups_survive_iff (parse : String → Option Document) (body : String)
    (symbols : List String) :
    (fetchPairPrecision (parseBody parse body) symbols ≠ .error .aborted ↔
        PrecisionsReadable (parseBody parse body) symbols) ∧
      (fetchTradablePairs (parseBody parse body) ≠ .error .aborted ↔
        PairsReadable (parseBody parse body)) ∧
      (Survives (parseBody parse body) (fetchPairPrecision (parseBody parse body) symbols) ↔
        IsAnswer (parseBody parse body)) ∧
      (Survives (parseBody parse body) (fetchTradablePairs (parseBody parse body)) ↔
        IsAnswer (parseBody parse body)) := by
  refine ⟨fetchPairPrecision_ne_aborted _ _, fetchTradablePairs_ne_aborted _,
    survives_iff (fun answer => ?_) fun _ thrown => errors_of_fetchPairPrecision thrown,
    survives_iff (fun answer => ?_) fun _ thrown => errors_of_fetchTradablePairs thrown⟩
  · exact (fetchPairPrecision_ne_aborted _ _).mpr
      (answer.mono fun result pairs => precise_of_holdsOnly pairs symbols)
  · refine (fetchTradablePairs_ne_aborted _).mpr (answer.mono fun result pairs => ?_)
    obtain ⟨members, same, every⟩ := pairs
    exact ⟨members, same, fun entry member => (every entry member).2⟩

/-- A gateway's error page takes the process down in both lookups, and the answer of the
endpoint that tells the time is reported as a pair that Kraken does not list. -/
theorem lookups_abort :
    (¬ ∀ (parse : String → Option Document) (body : String) (symbols : List String),
      Survives (parseBody parse body) (fetchPairPrecision (parseBody parse body) symbols) ∧
        Survives (parseBody parse body) (fetchTradablePairs (parseBody parse body))) ∧
    ¬ ∀ (document : Document) (symbols : List String),
      fetchPairPrecision document symbols ≠ .error .aborted → ¬ IsAnswer document →
        ∃ what, callVenue (fetchPairPrecision document symbols) =
          some (.error ⟨.venueFailed, what⟩) := by
  constructor
  · intro every
    obtain ⟨survives, _⟩ := every (fun _ => none) "<html>502 Bad Gateway</html>" ["BTC/USD"]
    exact survives.1 rfl
  · intro every
    let time : Document := .object [("error", .array []), ("result",
      .object [("unixtime", .number (some 1)), ("rfc1123", .string "x")])]
    obtain ⟨what, failed⟩ := every time ["BTC/USD"] (fun same => by cases same) (by
      rintro ⟨errors, here, result⟩
      obtain rfl := Document.array.inj (Option.some.inj here)
      obtain ⟨result, found, members, rfl, pairs⟩ := result rfl
      obtain rfl := Document.object.inj (Option.some.inj found)
      exact Bool.noConfusion (pairs _ List.mem_cons_self).2.1)
    cases failed

end DataFeed.Kraken
