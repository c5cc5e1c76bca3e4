import DataFeed.Foundation.JsonText
import DataFeed.Venue.Event
import DataFeed.Venue.Symbol

/-! # The text of a book request

A request is a template with a symbol, and for Kraken a depth, pasted in as they are.
No byte of a symbol that a venue takes is one that JSON spells otherwise, so the text is
that of the template's object (`Unescaped`), and parses to it.
-/

namespace DataFeed.Venue

open Foundation JsonText DataFeed.Core

/-- A text that is spelled in JSON as it is. -/
def Unescaped (text : List UInt8) : Prop := ∀ byte ∈ text, escape byte = [byte]

/-- A text without a byte to escape is escaped to itself. -/
theorem Unescaped.flatMap_escape {text : List UInt8} (plain : Unescaped text) :
    text.flatMap escape = text := by
  induction text with
  | nil => rfl
  | cons byte text ih =>
      rw [List.flatMap_cons, plain byte List.mem_cons_self,
        ih fun other member => plain other (List.mem_cons_of_mem byte member)]
      rfl

/-- A text without a byte to escape is rendered between quotes as it is. -/
theorem Unescaped.renderString {text : List UInt8} (plain : Unescaped text) :
    renderString text = 34 :: (text ++ [34]) := by
  rw [JsonText.renderString, plain.flatMap_escape]

/-- Letters and digits are not escaped. -/
theorem escape_isAlnum {byte : UInt8} (alnum : isAlnum byte = true) : escape byte = [byte] := by
  have special : ∀ other : UInt8, isAlnum other = false → byte ≠ other := by
    rintro other not_alnum rfl
    exact Bool.false_ne_true (not_alnum.symm.trans alnum)
  have visible : ¬ byte < 32 := by
    intro control
    have low : byte.toNat < 32 := control
    simp only [isAlnum, Bool.or_eq_true, Bool.and_eq_true, decide_eq_true_eq,
      UInt8.le_iff_toNat_le] at alnum
    change (48 ≤ _ ∧ _ ∨ 65 ≤ _ ∧ _) ∨ 97 ≤ _ ∧ _ at alnum
    omega
  rw [escape, if_neg (not_or.mpr ⟨special 34 (by decide), special 92 (by decide)⟩),
    if_neg visible]

/-- A well-formed symbol is spelled in JSON as it is, if the punctuation is. -/
theorem unescaped_of_isWellFormedSymbol {symbol punctuation : String}
    (wellFormed : isWellFormedSymbol symbol punctuation = true)
    (punctuated : Unescaped (bytes punctuation)) : Unescaped (bytes symbol) := by
  unfold isWellFormedSymbol at wellFormed
  rw [Bool.and_eq_true, List.all_eq_true] at wellFormed
  intro byte member
  rcases Bool.or_eq_true_iff.mp (wellFormed.2 byte member) with alnum | listed
  · exact escape_isAlnum alnum
  · exact punctuated byte (List.contains_iff_mem.mp listed)

/-- The tree of a natural number. -/
def natural (value : Nat) : JsonTree := .number (decimalDigits value)

/-- A natural number is spelled by the grammar. -/
theorem spelled_natural (value : Nat) : Spelled (natural value) := by
  have digits := allDigits_decimalDigits value
  refine ⟨validNumber_of_digits (decimalDigits_ne_nil value) digits ?_,
    List.all_eq_true.mpr fun byte member => isNumberByte_of_isDigit (digits byte member)⟩
  rcases Nat.eq_zero_or_pos value with rfl | positive
  · exact Or.inr rfl
  · exact Or.inl (head_decimalDigits positive)

/-- Different numbers have different trees. -/
theorem natural_inj {first second : Nat} (same : natural first = natural second) :
    first = second := by
  rw [← numeral_decimalDigits first, JsonTree.number.inj same, numeral_decimalDigits]

/-- What a venue calls a request. -/
def BookRequest.verb : BookRequest → String
  | subscribe => "subscribe"
  | unsubscribe => "unsubscribe"

/-- The two kinds of request have different verbs. -/
theorem BookRequest.verb_inj {first second : BookRequest}
    (same : bytes first.verb = bytes second.verb) : first = second := by
  revert same
  cases first <;> cases second <;> decide +kernel

end DataFeed.Venue

namespace DataFeed.Kraken

open Foundation JsonText DataFeed.Core L2 Venue

/-- The text of a request for a book. -/
def makeBookRequest (request : BookRequest) (book : BookSpec) : String :=
  "\x7b\"method\":\"" ++ (if request = .subscribe then "subscribe" else "unsubscribe") ++
    "\",\"params\":\x7b\"channel\":\"book\",\"depth\":" ++ toString book.depth ++
    ",\"symbol\":[\"" ++ book.symbol ++ "\"]\x7d\x7d"

/-- What a request for a book says. -/
def bookRequest (request : BookRequest) (book : BookSpec) : JsonTree :=
  .object
    [(bytes "method", .string (bytes request.verb)),
      (bytes "params",
        .object
          [(bytes "channel", .string (bytes "book")),
            (bytes "depth", natural book.depth.toNat),
            (bytes "symbol", .array [.string (bytes book.symbol)])])]

/-- Coinbase's request is spelled by the grammar. -/
theorem spelled_bookRequest (request : BookRequest) (book : BookSpec) :
    Spelled (bookRequest request book) :=
  ⟨trivial, ⟨trivial, spelled_natural book.depth.toNat, ⟨trivial, trivial⟩, trivial⟩, trivial⟩

/-- No symbol Coinbase's adapter accepts has a byte to escape. -/
theorem unescaped_of_checkSymbol {symbol : String} (accepted : checkSymbol symbol = .ok ()) :
    Unescaped (bytes symbol) := by
  unfold checkSymbol at accepted
  split at accepted
  · rename_i wellFormed
    refine unescaped_of_isWellFormedSymbol wellFormed ?_
    unfold Unescaped
    decide +kernel
  · contradiction

/-- Coinbase's request is made of the bytes of the object it stands for. -/
theorem bytes_makeBookRequest {request : BookRequest} {book : BookSpec}
    (accepted : checkSymbol book.symbol = .ok ()) :
    bytes (makeBookRequest request book) = render (bookRequest request book) := by
  have depth : bytes (toString book.depth) = decimalDigits book.depth.toNat :=
    bytes_repr book.depth.toNat
  have quoted := (unescaped_of_checkSymbol accepted).renderString
  unfold makeBookRequest bookRequest natural
  simp only [bytes_append]
  generalize bytes book.symbol = text at quoted ⊢
  generalize bytes (toString book.depth) = digits at depth ⊢
  simp only [depth]
  simp only [render, renderElements, renderMembers, quoted, List.append_assoc, List.cons_append]
  cases request with
  | subscribe => rfl
  | unsubscribe => rfl

/-- A request says what it was made of. -/
theorem bookRequest_inj {request other : BookRequest} {book second : BookSpec}
    (same : bookRequest request book = bookRequest other second) :
    request = other ∧ book.symbol = second.symbol ∧ book.depth = second.depth := by
  simp only [bookRequest, JsonTree.object.injEq, List.cons.injEq, Prod.mk.injEq,
    JsonTree.string.injEq, JsonTree.array.injEq, true_and, and_true] at same
  obtain ⟨verb, depth, symbol⟩ := same
  exact ⟨BookRequest.verb_inj verb, bytes_inj symbol, UInt32.toNat_inj.mp (natural_inj depth)⟩

end DataFeed.Kraken

namespace DataFeed.Coinbase

open Foundation JsonText DataFeed.Core L2 Venue

/-- The text of a request for a book. -/
def makeBookRequest (request : BookRequest) (book : BookSpec) : String :=
  "\x7b\"type\":\"" ++ (if request = .subscribe then "subscribe" else "unsubscribe") ++
    "\",\"channel\":\"level2\",\"product_ids\":[\"" ++ book.symbol ++ "\"]\x7d"

/-- What a request for a book says: nothing of its depth. -/
def bookRequest (request : BookRequest) (book : BookSpec) : JsonTree :=
  .object
    [(bytes "type", .string (bytes request.verb)),
      (bytes "channel", .string (bytes "level2")),
      (bytes "product_ids", .array [.string (bytes book.symbol)])]

/-- Kraken's request is spelled by the grammar. -/
theorem spelled_bookRequest (request : BookRequest) (book : BookSpec) :
    Spelled (bookRequest request book) :=
  ⟨trivial, trivial, ⟨trivial, trivial⟩, trivial⟩

/-- No symbol Kraken's adapter accepts has a byte to escape. -/
theorem unescaped_of_checkSymbol {symbol : String} (accepted : checkSymbol symbol = .ok ()) :
    Unescaped (bytes symbol) := by
  unfold checkSymbol at accepted
  split at accepted
  · rename_i wellFormed
    refine unescaped_of_isWellFormedSymbol (Bool.and_eq_true_iff.mp wellFormed).1 ?_
    unfold Unescaped
    decide +kernel
  · contradiction

/-- Kraken's request is made of the bytes of the object it stands for. -/
theorem bytes_makeBookRequest {request : BookRequest} {book : BookSpec}
    (accepted : checkSymbol book.symbol = .ok ()) :
    bytes (makeBookRequest request book) = render (bookRequest request book) := by
  have quoted := (unescaped_of_checkSymbol accepted).renderString
  unfold makeBookRequest bookRequest
  simp only [bytes_append]
  generalize bytes book.symbol = text at quoted ⊢
  simp only [render, renderElements, renderMembers, quoted, List.append_assoc, List.cons_append]
  cases request with
  | subscribe => rfl
  | unsubscribe => rfl

/-- A request says what it was made of, but for the depth. -/
theorem bookRequest_inj {request other : BookRequest} {book second : BookSpec}
    (same : bookRequest request book = bookRequest other second) :
    request = other ∧ book.symbol = second.symbol := by
  simp only [bookRequest, JsonTree.object.injEq, List.cons.injEq, Prod.mk.injEq,
    JsonTree.string.injEq, JsonTree.array.injEq, true_and, and_true] at same
  exact ⟨BookRequest.verb_inj same.1, bytes_inj same.2⟩

end DataFeed.Coinbase

namespace DataFeed.Venue

open Foundation JsonText DataFeed.Core L2

/-- **A symbol cannot alter a request.** For every symbol that a venue takes, the text of a
request is the JSON of exactly what was asked, and different requests have different
texts. -/
theorem requests_say_what_is_asked :
    ((∀ request (book : BookSpec), Kraken.checkSymbol book.symbol = .ok () →
        parse (bytes (Kraken.makeBookRequest request book)) =
          some (Kraken.bookRequest request book)) ∧
      ∀ request other (book second : BookSpec), Kraken.checkSymbol book.symbol = .ok () →
        Kraken.checkSymbol second.symbol = .ok () →
          Kraken.makeBookRequest request book = Kraken.makeBookRequest other second →
            request = other ∧ book.symbol = second.symbol ∧ book.depth = second.depth) ∧
      (∀ request (book : BookSpec), Coinbase.checkSymbol book.symbol = .ok () →
        parse (bytes (Coinbase.makeBookRequest request book)) =
          some (Coinbase.bookRequest request book)) ∧
        ∀ request other (book second : BookSpec), Coinbase.checkSymbol book.symbol = .ok () →
          Coinbase.checkSymbol second.symbol = .ok () →
            Coinbase.makeBookRequest request book = Coinbase.makeBookRequest other second →
              request = other ∧ book.symbol = second.symbol := by
  refine ⟨⟨?_, ?_⟩, ?_, ?_⟩
  · intro request book accepted
    rw [Kraken.bytes_makeBookRequest accepted]
    exact parse_render (Kraken.spelled_bookRequest request book)
  · intro request other book second accepted also same
    have texts := congrArg bytes same
    rw [Kraken.bytes_makeBookRequest accepted, Kraken.bytes_makeBookRequest also] at texts
    exact Kraken.bookRequest_inj (render_inj (Kraken.spelled_bookRequest request book)
      (Kraken.spelled_bookRequest other second) texts)
  · intro request book accepted
    rw [Coinbase.bytes_makeBookRequest accepted]
    exact parse_render (Coinbase.spelled_bookRequest request book)
  · intro request other book second accepted also same
    have texts := congrArg bytes same
    rw [Coinbase.bytes_makeBookRequest accepted, Coinbase.bytes_makeBookRequest also] at texts
    exact Coinbase.bookRequest_inj (render_inj (Coinbase.spelled_bookRequest request book)
      (Coinbase.spelled_bookRequest other second) texts)

/-- A request for ten levels of a pair that Kraken takes. -/
theorem requests_say_what_is_asked_one :
    parse (bytes (Kraken.makeBookRequest .subscribe ⟨"BTC/USD", 10⟩)) =
      some (Kraken.bookRequest .subscribe ⟨"BTC/USD", 10⟩) :=
  requests_say_what_is_asked.1.1 .subscribe ⟨"BTC/USD", 10⟩ (by decide +kernel)

end DataFeed.Venue
