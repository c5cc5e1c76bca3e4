import Mathlib.Data.String.Basic
import DataFeed.Core.Decimal
import DataFeed.Core.Document
import DataFeed.Core.Json
import DataFeed.L2.Message
import DataFeed.Venue.Manager

/-! # Coinbase's products

Two lookups read products of Coinbase's public endpoint: one lists those that can be
streamed, the other reads one's precision. Both ask the same of a product
(`whyUnstreamable`), so they agree on every answer the venue may give (`products_agree`);
and as each checks a member before it applies an accessor to it, no document that a body is
parsed to takes the process down (`products_survive`).
-/

namespace DataFeed.Coinbase

open Foundation DataFeed.Core L2 Venue

/-- The status of a product that is traded. -/
def onlineStatus : String := "online"

/-- Where Coinbase's products are. -/
def productsEndpoint : String := "/api/v3/brokerage/market/products"

/-- What Coinbase answered. -/
structure Response where
  status : Nat
  body : String

/-- The characters that fit some bytes. -/
def takeBytes : Nat → List Char → List Char
  | _, [] => []
  | bytes, char :: rest =>
      if char.utf8Size ≤ bytes then char :: takeBytes (bytes - char.utf8Size) rest else []

/-- The first 200 bytes of a body, for people, without a character that they cut in two. -/
def excerpt (body : String) : String := .ofList (takeBytes 200 body.toList)

/-- The JSON object a body holds. -/
def parseObject (parse : String → Option Document) (body : String) : Lookup Document :=
  match parse body with
  | some (.object members) => .ok (.object members)
  | _ => .error (.thrown ("Coinbase answered with no JSON object: " ++ excerpt body))

/-- Whether an optional boolean of a product is true. -/
def isSet (product : Document) (name : String) : Lookup Bool :=
  (product.findJsonMember name).bind fun found =>
    match found with
    | none => .ok false
    | some member => if member.isBool then member.getBool else .ok false

/-- Whether a product, or trading in it, is disabled. The second is asked if the first is not
so. -/
def isDisabled (product : Document) : Lookup Bool :=
  (isSet product "is_disabled").bind fun disabled =>
    if disabled then .ok true else isSet product "trading_disabled"

/-- Why a product cannot be streamed, or nothing if it can. An alias is one whose data comes
under the product that it aliases. -/
def whyUnstreamable (product : Document) : Lookup (Option String) :=
  (product.requireJsonString "product_id").bind fun id =>
    (product.findJsonString "status").bind fun status =>
      if status.getD "" ≠ onlineStatus then
        .ok (some ("Coinbase lists " ++ id ++ " as '" ++ status.getD "" ++ "', not '" ++
          onlineStatus ++ "'"))
      else
        (isDisabled product).bind fun disabled =>
          if disabled then .ok (some ("Coinbase has disabled trading in " ++ id))
          else
            (product.findJsonString "alias").bind fun aliased =>
              if aliased.getD "" ≠ "" then
                .ok (some ("Coinbase streams " ++ id ++ " as " ++ aliased.getD "" ++
                  "; subscribe to that"))
              else .ok none

/-- The precision of a product. The quote increment stands in for a price increment. -/
def parseProductPrecision (parse : String → Option Document) (body : String) :
    Lookup PairPrecision :=
  (parseObject parse body).bind fun product =>
    (whyUnstreamable product).bind fun why =>
      match why with
      | some why => .error (.unknownSymbol why)
      | none =>
          (product.findJsonString "price_increment").bind fun price =>
            (if price.getD "" = "" then product.requireJsonString "quote_increment"
              else .ok (price.getD "")).bind fun step =>
                (product.requireJsonString "base_increment").bind fun base =>
                  .ok ⟨fractionDigits step, fractionDigits base⟩

/-- The ids of the products that can be streamed, in the order of the list. -/
def streamableIds : List Document → Lookup (List String)
  | [] => .ok []
  | product :: rest =>
      (whyUnstreamable product).bind fun why =>
        match why with
        | some _ => streamableIds rest
        | none =>
            (product.requireJsonString "product_id").bind fun id =>
              (streamableIds rest).map (id :: ·)

/-- The ids of the products that can be streamed, sorted. -/
def parseTradableProducts (parse : String → Option Document) (body : String) :
    Lookup (List String) :=
  (parseObject parse body).bind fun document =>
    ((document.requireJsonMember "products" Document.isArray).bind Document.elements).bind
      fun products => (streamableIds products).map fun ids =>
        ids.mergeSort fun first second => decide (first ≤ second)

/-- Throws if a request failed, or was not answered at all. -/
def get (answer : Except String Response) : Lookup Response :=
  match answer with
  | .ok response => .ok response
  | .error what => .error (.thrown what)

def throwUnlessOk (response : Response) (target : String) : Lookup Unit :=
  if response.status ≠ 200 then
    .error (.thrown ("Coinbase answered " ++ target ++ " with HTTP " ++
      toString response.status ++ ": " ++ excerpt response.body))
  else .ok ()

/-- What `FetchProductPrecision` makes of an answer. -/
def fetchProductPrecision (parse : String → Option Document) (productId : String)
    (answer : Except String Response) : Lookup PairPrecision :=
  (get answer).bind fun response =>
    if response.status = 404 ∨ response.status = 400 then
      .error (.unknownSymbol ("Coinbase does not list " ++ productId))
    else
      (throwUnlessOk response (productsEndpoint ++ "/" ++ productId)).bind fun _ =>
        parseProductPrecision parse response.body

/-- What `FetchTradableProducts` makes of an answer. -/
def fetchTradableProducts (parse : String → Option Document) (answer : Except String Response) :
    Lookup (List String) :=
  (get answer).bind fun response =>
    (throwUnlessOk response (productsEndpoint ++ "?product_type=SPOT")).bind fun _ =>
      parseTradableProducts parse response.body

/-- A product under an id. -/
def Named (product : Document) (id : String) : Prop :=
  product.member "product_id" = some (.string id)

/-- A product is online, is traded, and is no alias. -/
structure Streamable (product : Document) : Prop where
  online : product.member "status" = some (.string onlineStatus)
  enabled : product.member "is_disabled" ≠ some (.boolean true) ∧
    product.member "trading_disabled" ≠ some (.boolean true)
  itself : product.member "alias" = none ∨ product.member "alias" = some (.string "")

variable {product : Document} {Result : Type} {fetched : Lookup Result}

/-- A lookup throws what is no word on the symbol. -/
def Fails (fetched : Lookup Result) : Prop := ∃ what, fetched = .error (.thrown what)

/-- A text that may be missing is found or missed, or the lookup fails. -/
theorem findJsonString_cases (name : String) :
    (∃ found, product.findJsonString name = .ok found ∧
      product.member name = found.map Document.string) ∨ Fails (product.findJsonString name) := by
  rw [Document.findJsonString_eq]
  unfold Fails
  split
  · rename_i missing
    exact .inl ⟨none, rfl, missing⟩
  · rename_i text here
    exact .inl ⟨some text, rfl, here⟩
  · exact .inr ⟨_, rfl⟩

/-- A text that must be there is found, or the lookup fails. -/
theorem requireJsonString_cases (name : String) :
    (∃ text, product.requireJsonString name = .ok text ∧
      product.member name = some (.string text)) ∨ Fails (product.requireJsonString name) := by
  rw [Document.requireJsonString_eq]
  unfold Fails
  split
  · rename_i text here
    exact .inl ⟨text, rfl, here⟩
  · exact .inr ⟨_, rfl⟩

/-- An optional text that is not empty is a text that is there. -/
theorem getD_map_string {found : Option String} {text : String} (present : text ≠ "") :
    found.getD "" = text ↔ found.map Document.string = some (Document.string text) := by
  cases found with
  | none => simp [present.symm]
  | some found => simp

/-- A boolean is true, or not there, or is something else. -/
theorem isSet_cases (name : String) :
    (isSet product name = .ok true ∧ product.member name = some (.boolean true)) ∨
      (isSet product name = .ok false ∧ product.member name ≠ some (.boolean true)) := by
  rw [isSet, Document.findJsonMember_eq, Except.bind]
  cases product.member name with
  | none => exact .inr ⟨rfl, fun same => by cases same⟩
  | some member =>
      cases member with
      | boolean value =>
          cases value with
          | true => exact .inl ⟨rfl, rfl⟩
          | false => exact .inr ⟨rfl, fun same => by cases same⟩
      | null | number | string | array | object => exact .inr ⟨rfl, fun same => by cases same⟩

/-- A product is disabled by one of two booleans. -/
theorem isDisabled_cases (product : Document) :
    (isDisabled product = .ok true ∧ ¬ (product.member "is_disabled" ≠ some (.boolean true) ∧
        product.member "trading_disabled" ≠ some (.boolean true))) ∨
      (isDisabled product = .ok false ∧ product.member "is_disabled" ≠ some (.boolean true) ∧
        product.member "trading_disabled" ≠ some (.boolean true)) := by
  unfold isDisabled
  rcases @isSet_cases product "is_disabled" with ⟨set, here⟩ | ⟨unset, apart⟩
  · exact .inl ⟨by rw [set]; rfl, fun enabled => enabled.1 here⟩
  · rcases @isSet_cases product "trading_disabled" with ⟨also, here⟩ | ⟨neither, other⟩
    · exact .inl ⟨by rw [unset]; exact also, fun enabled => enabled.2 here⟩
    · exact .inr ⟨by rw [unset]; exact neither, apart, other⟩

/-- It is decided whether a product can be streamed. -/
structure Decided (product : Document) : Prop where
  named : ∃ id, Named product id
  why : Streamable product ∧ whyUnstreamable product = .ok none ∨
    ¬ Streamable product ∧ ∃ why, whyUnstreamable product = .ok (some why)

/-- Of a product that is online, disabling comes next. -/
theorem whyUnstreamable_online {id : String} {status : Option String} {disabled : Bool}
    (identified : product.requireJsonString "product_id" = .ok id)
    (stated : product.findJsonString "status" = .ok status)
    (online : status.getD "" = onlineStatus) (decided : isDisabled product = .ok disabled) :
    whyUnstreamable product =
      if disabled then .ok (some ("Coinbase has disabled trading in " ++ id))
      else
        (product.findJsonString "alias").bind fun aliased =>
          if aliased.getD "" ≠ "" then
            .ok (some ("Coinbase streams " ++ id ++ " as " ++ aliased.getD "" ++
              "; subscribe to that"))
          else .ok none := by
  rw [whyUnstreamable, identified, Except.bind, stated, Except.bind, if_neg (not_not.mpr online),
    decided, Except.bind]

/-- It is decided whether a product can be streamed, or that is malformed. -/
theorem whyUnstreamable_cases (product : Document) :
    Decided product ∨ Fails (whyUnstreamable product) := by
  rcases @requireJsonString_cases product "product_id" with ⟨id, identified, named⟩ | ⟨what, failed⟩
  swap
  · exact .inr ⟨what, by rw [whyUnstreamable, failed]; rfl⟩
  rcases @findJsonString_cases product "status" with ⟨status, stated, here⟩ | ⟨what, failed⟩
  swap
  · exact .inr ⟨what, by rw [whyUnstreamable, identified, Except.bind, failed]; rfl⟩
  have refused : ¬ Streamable product → (∃ why, whyUnstreamable product = .ok (some why)) →
      Decided product := fun not said => ⟨⟨id, named⟩, .inr ⟨not, said⟩⟩
  by_cases online : status.getD "" = onlineStatus
  swap
  · refine .inl (refused (fun streamable => online ?_) ?_)
    · exact (getD_map_string (by decide)).mpr (here.symm.trans streamable.online)
    · rw [whyUnstreamable, identified, Except.bind, stated, Except.bind]
      exact ⟨_, if_pos online⟩
  have isOnline := here.trans ((getD_map_string (by decide)).mp online)
  rcases isDisabled_cases product with ⟨disabled, not_enabled⟩ | ⟨enabled, apart⟩
  · refine .inl (refused (fun streamable => not_enabled streamable.enabled) ?_)
    exact ⟨_, whyUnstreamable_online identified stated online disabled⟩
  have asked := whyUnstreamable_online identified stated online enabled
  rw [if_neg Bool.false_ne_true] at asked
  rcases @findJsonString_cases product "alias" with ⟨aliased, read, here⟩ | ⟨what, failed⟩
  swap
  · exact .inr ⟨what, by rw [asked, failed]; rfl⟩
  rw [read, Except.bind] at asked
  by_cases itself : aliased.getD "" = ""
  · refine .inl ⟨⟨id, named⟩, .inl ⟨⟨isOnline, apart, ?_⟩, ?_⟩⟩
    · rw [here]
      cases aliased with
      | none => exact .inl rfl
      | some aliased => exact .inr (congrArg (some ∘ Document.string) itself)
    · rw [asked, if_neg (not_not.mpr itself)]
  · refine .inl (refused (fun streamable => itself ?_) ?_)
    · rcases streamable.itself with missing | empty
      · rw [missing] at here
        cases aliased with
        | none => rfl
        | some aliased => contradiction
      · rw [empty] at here
        cases aliased with
        | none => contradiction
        | some aliased => exact (Document.string.inj (Option.some.inj here)).symm
    · rw [asked]
      exact ⟨_, if_pos itself⟩

/-- A named product's id is read. -/
theorem requireJsonString_of_named {id : String} (named : Named product id) :
    product.requireJsonString "product_id" = .ok id := by
  rw [Document.requireJsonString_eq, show product.member "product_id" = _ from named]

/-- A product has one name. -/
theorem Named.unique {first second : String} (one : Named product first)
    (other : Named product second) : first = second :=
  Document.string.inj (Option.some.inj (one.symm.trans other))

/-- A list of products is read if it is decided of each whether it can be streamed. -/
theorem streamableIds_cases (products : List Document) :
    (∃ ids, streamableIds products = .ok ids ∧ (∀ product ∈ products, Decided product) ∧
      ∀ id, id ∈ ids ↔ ∃ product ∈ products, Named product id ∧ Streamable product) ∨
    Fails (streamableIds products) := by
  induction products with
  | nil => exact .inl ⟨[], rfl, by simp, by simp⟩
  | cons product rest ih =>
      rcases whyUnstreamable_cases product with decided | ⟨what, failed⟩
      swap
      · exact .inr ⟨what, by rw [streamableIds, failed]; rfl⟩
      obtain ⟨⟨name, named⟩, why⟩ := decided
      rcases why with ⟨streamable, said⟩ | ⟨not, why, said⟩
      · rcases ih with ⟨ids, read, all, listed⟩ | ⟨what, failed⟩
        · refine .inl ⟨name :: ids, ?_, ?_, fun id => ?_⟩
          · rw [streamableIds, said, Except.bind, requireJsonString_of_named named, read]
            rfl
          · exact List.forall_mem_cons.mpr ⟨⟨⟨name, named⟩, .inl ⟨streamable, said⟩⟩, all⟩
          · rw [List.mem_cons, listed, List.exists_mem_cons_iff]
            refine or_congr_left ⟨fun same => ⟨same ▸ named, streamable⟩, fun both => ?_⟩
            exact both.1.unique named
        · refine .inr ⟨what, ?_⟩
          rw [streamableIds, said, Except.bind, requireJsonString_of_named named, failed]
          rfl
      · rcases ih with ⟨ids, read, all, listed⟩ | ⟨what, failed⟩
        · refine .inl ⟨ids, ?_, ?_, fun id => ?_⟩
          · rw [streamableIds, said, Except.bind, read]
          · exact List.forall_mem_cons.mpr ⟨⟨⟨name, named⟩, .inr ⟨not, why, said⟩⟩, all⟩
          · rw [listed, List.exists_mem_cons_iff]
            exact ⟨.inr, fun either => either.resolve_left fun both => not both.2⟩
        · exact .inr ⟨what, by rw [streamableIds, said, Except.bind, failed]⟩

/-- The step of a product's prices: its price increment, or else its quote increment. -/
def PriceStep (product : Document) (step : String) : Prop :=
  product.member "price_increment" = some (.string step) ∧ step ≠ "" ∨
    (product.member "price_increment" = none ∨
      product.member "price_increment" = some (.string "")) ∧
    product.member "quote_increment" = some (.string step)

/-- The precision of a product that can be streamed is that of its increments. -/
theorem parseProductPrecision_eq {parse : String → Option Document} {body step base : String}
    (object : parseObject parse body = .ok product)
    (said : whyUnstreamable product = .ok none) (steps : PriceStep product step)
    (based : product.member "base_increment" = some (.string base)) :
    parseProductPrecision parse body = .ok ⟨fractionDigits step, fractionDigits base⟩ := by
  have base_read : product.requireJsonString "base_increment" = .ok base := by
    rw [Document.requireJsonString_eq, based]
  rw [parseProductPrecision, object, Except.bind, said, Except.bind]
  rcases steps with ⟨price, present⟩ | ⟨missing, quote⟩
  · have read : product.findJsonString "price_increment" = .ok (some step) := by
      rw [Document.findJsonString_eq, price]
    simp [read, Except.bind, present, base_read]
  · have quote_read : product.requireJsonString "quote_increment" = .ok step := by
      rw [Document.requireJsonString_eq, quote]
    rcases missing with absent | empty
    · have read : product.findJsonString "price_increment" = .ok none := by
        rw [Document.findJsonString_eq, absent]
      simp [read, Except.bind, quote_read, base_read]
    · have read : product.findJsonString "price_increment" = .ok (some "") := by
        rw [Document.findJsonString_eq, empty]
      simp [read, Except.bind, quote_read, base_read]

/-- The step of a product's prices is read, or the lookup fails. -/
theorem priceStep_cases (price : Option String) :
    (∃ step, (if price.getD "" = "" then product.requireJsonString "quote_increment"
      else .ok (price.getD "")) = .ok step) ∨
    Fails (if price.getD "" = "" then product.requireJsonString "quote_increment"
      else .ok (price.getD "")) := by
  split
  · rcases @requireJsonString_cases product "quote_increment" with ⟨text, read, -⟩ | failed
    · exact .inl ⟨text, read⟩
    · exact .inr failed
  · exact .inl ⟨_, rfl⟩

/-- A product that can be streamed is never reported as unknown, one that cannot always is. -/
theorem parseProductPrecision_unknown_iff {parse : String → Option Document} {body : String}
    (object : parseObject parse body = .ok product) (decided : Decided product) :
    (∃ why, parseProductPrecision parse body = .error (.unknownSymbol why)) ↔
      ¬ Streamable product := by
  rcases decided.why with ⟨streamable, said⟩ | ⟨not, why, said⟩
  · refine ⟨fun unknown => ?_, fun not => (not streamable).elim⟩
    obtain ⟨why, unknown⟩ := unknown
    rw [parseProductPrecision, object, Except.bind, said, Except.bind] at unknown
    dsimp only at unknown
    rcases @findJsonString_cases product "price_increment" with ⟨price, read, -⟩ | ⟨what, failed⟩
    · rw [read, Except.bind] at unknown
      rcases @priceStep_cases product price with ⟨step, read⟩ | ⟨what, failed⟩
      · rw [read, Except.bind] at unknown
        rcases @requireJsonString_cases product "base_increment" with
          ⟨base, read, -⟩ | ⟨what, failed⟩
        · rw [read] at unknown
          contradiction
        · rw [failed] at unknown
          cases unknown
      · rw [failed] at unknown
        cases unknown
    · rw [failed] at unknown
      cases unknown
  · refine ⟨fun _ => not, fun _ => ⟨why, ?_⟩⟩
    rw [parseProductPrecision, object, Except.bind, said]
    rfl

/-- A body parses to an object, or the lookup fails. -/
theorem parseObject_cases (parse : String → Option Document) (body : String) :
    (∃ members, parse body = some (.object members) ∧
      parseObject parse body = .ok (.object members)) ∨ Fails (parseObject parse body) := by
  unfold parseObject
  split
  · rename_i members parsed
    exact .inl ⟨members, parsed, rfl⟩
  · exact .inr ⟨_, rfl⟩

/-- A list of products that was read. -/
theorem fetchTradableProducts_cases (parse : String → Option Document)
    (answer : Except String Response) :
    (∃ response members products ids, answer = .ok response ∧
      parse response.body = some (.object members) ∧
      Document.member (.object members) "products" = some (.array products) ∧
      streamableIds products = .ok ids ∧
      fetchTradableProducts parse answer =
        .ok (ids.mergeSort fun first second => decide (first ≤ second))) ∨
    Fails (fetchTradableProducts parse answer) := by
  unfold fetchTradableProducts
  cases answer with
  | error what => exact .inr ⟨what, rfl⟩
  | ok response =>
      rw [get, Except.bind, throwUnlessOk]
      by_cases failed : response.status ≠ 200
      · rw [if_pos failed]
        exact .inr ⟨_, rfl⟩
      · rw [if_neg failed, Except.bind, parseTradableProducts]
        rcases parseObject_cases parse response.body with ⟨members, parsed, read⟩ | ⟨what, failed⟩
        swap
        · exact .inr ⟨what, by rw [failed]; rfl⟩
        rw [read, Except.bind, Document.requireJsonArray_eq]
        split
        · rename_i products here
          rw [Except.bind]
          rcases streamableIds_cases products with ⟨ids, read, -⟩ | ⟨what, failed⟩
          · exact .inl ⟨response, members, products, ids, rfl, parsed, here, read, by rw [read]; rfl⟩
          · exact .inr ⟨what, by rw [failed]; rfl⟩
        · exact .inr ⟨_, rfl⟩

/-- **What Coinbase lists can be streamed, at a known precision, and nothing else can.** For
every answer that is read as a list, however bodies are parsed: the list is sorted and has
exactly the ids of the products that can be streamed; and for each product of the answer, its
own lookup reports an unknown symbol if and only if it was left out, and gives the precision
of its increments if it was not and has them. -/
theorem products_agree (parse : String → Option Document) (answer : Except String Response)
    (ids : List String) (listed : fetchTradableProducts parse answer = .ok ids) :
    ∃ response members products, answer = .ok response ∧
      parse response.body = some (.object members) ∧
      Document.member (.object members) "products" = some (.array products) ∧
      ids.Pairwise (· ≤ ·) ∧
      (∀ id, id ∈ ids ↔ ∃ product ∈ products, Named product id ∧ Streamable product) ∧
      ∀ product ∈ products, ∀ body productId, parse body = some product →
        ((∃ why, fetchProductPrecision parse productId (.ok ⟨200, body⟩) =
            .error (.unknownSymbol why)) ↔ ¬ Streamable product) ∧
        ∀ step base, Streamable product → PriceStep product step →
          product.member "base_increment" = some (.string base) →
            fetchProductPrecision parse productId (.ok ⟨200, body⟩) =
              .ok ⟨fractionDigits step, fractionDigits base⟩ := by
  rcases fetchTradableProducts_cases parse answer with
    ⟨response, members, products, found, answered, parsed, here, read, sorted⟩ | ⟨what, failed⟩
  swap
  · rw [failed] at listed
    cases listed
  obtain rfl := Except.ok.inj (sorted.symm.trans listed)
  rcases streamableIds_cases products with ⟨same, again, all, exact⟩ | ⟨what, failed⟩
  swap
  · rw [failed] at read
    cases read
  obtain rfl := Except.ok.inj (again.symm.trans read)
  refine ⟨response, members, products, answered, parsed, here, ?_, fun id => ?_, ?_⟩
  · have ordered : (same.mergeSort fun first second => decide (first ≤ second)).Pairwise
        fun first second => decide (first ≤ second) = true :=
      List.pairwise_mergeSort (by simpa using fun _ _ _ => le_trans) (by simpa using le_total) same
    simpa using ordered
  · rw [List.mem_mergeSort]
    exact exact id
  · intro product member body productId parsed
    have decided := all product member
    have object : parseObject parse body = .ok product := by
      obtain ⟨id, named⟩ := decided.named
      cases product with
      | object members => rw [parseObject, parsed]
      | null | boolean | number | string | array => cases named
    have looked : fetchProductPrecision parse productId (.ok ⟨200, body⟩) =
        parseProductPrecision parse body := rfl
    rw [looked]
    refine ⟨parseProductPrecision_unknown_iff object decided, fun step base streamable => ?_⟩
    have said := (decided.why.resolve_right fun refused => refused.1 streamable).2
    exact parseProductPrecision_eq object said

/-- A list of two products, of which one is not traded any more. -/
theorem products_agree_delisted :
    let listing (id status : String) : Document :=
      .object [("product_id", .string id), ("status", .string status),
        ("price_increment", .string "0.01"), ("base_increment", .string "0.00000001")]
    let parse : String → Option Document := fun body =>
      if body = "list" then
        some (.object [("products",
          .array [listing "OLD-USD" "delisted", listing "BTC-USD" "online"])])
      else if body = "old" then some (listing "OLD-USD" "delisted")
      else some (listing "BTC-USD" "online")
    fetchTradableProducts parse (.ok ⟨200, "list"⟩) = .ok ["BTC-USD"] ∧
      (∃ why, fetchProductPrecision parse "OLD-USD" (.ok ⟨200, "old"⟩) =
        .error (.unknownSymbol why)) ∧
      fetchProductPrecision parse "BTC-USD" (.ok ⟨200, "new"⟩) = .ok ⟨2, 8⟩ := by
  intro listing parse
  have listed : fetchTradableProducts parse (.ok ⟨200, "list"⟩) = .ok ["BTC-USD"] := by
    decide +kernel
  obtain ⟨response, members, products, answered, parsed, here, -, -, each⟩ :=
    products_agree parse (.ok ⟨200, "list"⟩) ["BTC-USD"] listed
  obtain rfl := Except.ok.inj answered
  obtain rfl := Document.object.inj (Option.some.inj parsed)
  obtain rfl := Document.array.inj (Option.some.inj here)
  refine ⟨listed, ?_, ?_⟩
  · have refused := each (listing "OLD-USD" "delisted") (by simp) "old" "OLD-USD" rfl
    refine refused.1.mpr fun streamable => ?_
    exact absurd (Document.string.inj (Option.some.inj streamable.online)) (by decide)
  · have read := (each (listing "BTC-USD" "online") (by simp) "new" "BTC-USD" rfl).2
    have streamable : Streamable (listing "BTC-USD" "online") :=
      ⟨rfl, ⟨(by intro same; cases same), (by intro same; cases same)⟩, .inl rfl⟩
    exact read "0.01" "0.00000001" streamable (.inl ⟨rfl, by decide⟩) rfl

/-- What returns does not abort. -/
theorem ne_aborted_of_ok {result : Result} (read : fetched = .ok result) :
    fetched ≠ .error .aborted :=
  fun same => by cases read.symm.trans same

/-- What throws does not abort. -/
theorem Fails.ne_aborted (fails : Fails fetched) : fetched ≠ .error .aborted := by
  obtain ⟨what, rfl⟩ := fails
  exact fun same => by cases same

/-- A text is asked for of a string only. -/
theorem findJsonString_ne_aborted (name : String) :
    product.findJsonString name ≠ .error .aborted := by
  rcases @findJsonString_cases product name with ⟨found, read, -⟩ | fails
  · exact ne_aborted_of_ok read
  · exact fails.ne_aborted

/-- Reading a text member aborts on no product. -/
theorem requireJsonString_ne_aborted (name : String) :
    product.requireJsonString name ≠ .error .aborted := by
  rcases @requireJsonString_cases product name with ⟨text, read, -⟩ | fails
  · exact ne_aborted_of_ok read
  · exact fails.ne_aborted

/-- Deciding whether a product is streamed aborts on no product. -/
theorem whyUnstreamable_ne_aborted (product : Document) :
    whyUnstreamable product ≠ .error .aborted := by
  rcases whyUnstreamable_cases product with decided | fails
  · rcases decided.why with ⟨-, said⟩ | ⟨-, why, said⟩
    · exact ne_aborted_of_ok said
    · exact ne_aborted_of_ok said
  · exact fails.ne_aborted

/-- Parsing a product's precision aborts on no body. -/
theorem parseProductPrecision_ne_aborted (parse : String → Option Document) (body : String) :
    parseProductPrecision parse body ≠ .error .aborted := by
  refine bind_ne_error.mpr ⟨?_, fun product _ => ?_⟩
  · rcases parseObject_cases parse body with ⟨members, -, read⟩ | fails
    · exact ne_aborted_of_ok read
    · exact fails.ne_aborted
  · refine bind_ne_error.mpr ⟨whyUnstreamable_ne_aborted product, fun why _ => ?_⟩
    cases why with
    | some why => exact fun same => by cases same
    | none =>
        refine bind_ne_error.mpr ⟨findJsonString_ne_aborted _, fun price _ => ?_⟩
        refine bind_ne_error.mpr ⟨?_, fun step _ => ?_⟩
        · rcases @priceStep_cases product price with ⟨step, read⟩ | fails
          · exact ne_aborted_of_ok read
          · exact fails.ne_aborted
        · refine bind_ne_error.mpr ⟨requireJsonString_ne_aborted _, fun base _ => ?_⟩
          exact fun same => by cases same

/-- Fetching a product's precision aborts on no answer. -/
theorem fetchProductPrecision_ne_aborted (parse : String → Option Document) (productId : String)
    (answer : Except String Response) :
    fetchProductPrecision parse productId answer ≠ .error .aborted := by
  refine bind_ne_error.mpr ⟨?_, fun response _ => ?_⟩
  · cases answer <;> exact fun same => by cases same
  · split
    · exact fun same => by cases same
    · refine bind_ne_error.mpr ⟨?_, fun _ _ => parseProductPrecision_ne_aborted parse _⟩
      unfold throwUnlessOk
      split <;> exact fun same => by cases same

/-- **No answer of Coinbase's takes the process down.** Whatever document a body is parsed to,
every accessor is applied to what it needs, so both lookups return or fail; only the lookup of
one product reports an unknown symbol. -/
theorem products_survive (parse : String → Option Document) (productId : String)
    (answer : Except String Response) :
    (∃ outcome, callVenue (fetchTradableProducts parse answer) = some outcome ∧
      ∀ error, outcome = .error error → error.code = .venueFailed) ∧
    ∃ outcome, callVenue (fetchProductPrecision parse productId answer) = some outcome ∧
      ∀ error, outcome = .error error →
        error.code = .unknownSymbol ∨ error.code = .venueFailed := by
  constructor
  · rcases fetchTradableProducts_cases parse answer with
      ⟨response, members, products, ids, -, -, -, -, read⟩ | ⟨what, failed⟩
    · rw [read]
      exact ⟨_, rfl, fun error same => by cases same⟩
    · rw [failed]
      refine ⟨_, rfl, fun error same => ?_⟩
      obtain rfl := Except.error.inj same
      rfl
  · have survives := fetchProductPrecision_ne_aborted parse productId answer
    cases fetched : fetchProductPrecision parse productId answer with
    | ok precision => exact ⟨_, rfl, fun error same => by cases same⟩
    | error fault =>
        cases fault with
        | aborted => exact (survives fetched).elim
        | unknownSymbol what =>
            refine ⟨_, rfl, fun error same => .inl ?_⟩
            obtain rfl := Except.error.inj same
            rfl
        | thrown what =>
            refine ⟨_, rfl, fun error same => .inr ?_⟩
            obtain rfl := Except.error.inj same
            rfl

end DataFeed.Coinbase
