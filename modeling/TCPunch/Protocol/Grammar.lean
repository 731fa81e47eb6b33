import TCPunch.Protocol.Codec

/-! # The requests that the server accepts

`ClientRequest::from_bytes` is the only check between the network and the registry. It
accepts a buffer exactly when five checks pass, and otherwise reports the first that does
not. The encoder cuts a name at 99 bytes, wherever that falls in a character, and the
decoder takes a name of 100 bytes that has no terminator; the two agree on everything else.
-/

namespace TCPunch

open Bytes

/-- The text of a token in one of the two forms that fit its field: thirty-two digits, or
    groups of 8, 4, 4, 4 and 12 digits, in either case. -/
def Uuid.ofText (text : String) : Option Uuid := (simple? text.toList).or (hyphenated? text.toList)

/-- `Uuid::parse_str` accepts nothing else in a text that fits a token field. -/
structure UuidGrammar extends UuidText where
  parseStr_eq : ∀ text, (ofString text).length ≤ tokenLength → parseStr text = Uuid.ofText text

theorem simple?_of_length {cs : List Char} (other : cs.length ≠ 32) : Uuid.simple? cs = none :=
  if_neg other

theorem hyphenated?_of_length {cs : List Char} (other : cs.length ≠ 36) : Uuid.hyphenated? cs = none :=
  if_neg fun both => other both.1

/-- The forms in braces and as a URN are too long for a token field. -/
def Uuid.grammar : UuidGrammar where
  toUuidText := Uuid.text
  parseStr_eq := by
    intro text short
    have characters : text.toList.length ≤ 37 := (length_toList_le text).trans short
    simp only [Uuid.text, Uuid.parseStr, Uuid.ofText]
    by_cases plain : text.toList.length = 32
    · rw [if_pos plain, hyphenated?_of_length (by omega), Option.or_none]
    · rw [if_neg plain, simple?_of_length plain, Option.none_or]
      by_cases grouped : text.toList.length = 36
      · rw [if_pos grouped]
      · rw [if_neg grouped, if_neg (by omega), if_neg (by omega), hyphenated?_of_length grouped]

theorem ofText_empty : Uuid.ofText "" = none := by decide

namespace ClientRequest

/-- The name field up to its first NUL. -/
def nameField (data : List UInt8) : List UInt8 := untilNul (data.take maxPairingName)

/-- The token field up to its first NUL. -/
def tokenField (data : List UInt8) : List UInt8 := untilNul ((data.drop maxPairingName).take tokenLength)

/-- What can be wrong with a buffer, in the order in which it is reported. -/
inductive Check where
  | length
  | nameUtf8
  | nameEmpty
  | tokenUtf8
  | token
  deriving Repr, DecidableEq

namespace Check

def all : List Check := [.length, .nameUtf8, .nameEmpty, .tokenUtf8, .token]

def fails (data : List UInt8) : Check → Bool
  | .length => data.length < clientRequestSize
  | .nameUtf8 => (toString? (nameField data)).isNone
  | .nameEmpty => (nameField data).isEmpty
  | .tokenUtf8 => (toString? (tokenField data)).isNone
  | .token => !(tokenField data).isEmpty && ((toString? (tokenField data)).bind Uuid.ofText).isNone

def error (data : List UInt8) : Check → ProtocolError
  | .length => .invalidLength clientRequestSize data.length
  | .nameUtf8 => .invalidUtf8
  | .nameEmpty => .emptyPairingName
  | .tokenUtf8 => .invalidUtf8
  | .token => .invalidToken

end Check

/-- The buffer holds the request: both texts stand at the front of their fields, and the
    token's is empty if there is none. -/
def Holds (data : List UInt8) (request : ClientRequest) : Prop :=
  clientRequestSize ≤ data.length ∧ nameField data ≠ [] ∧
    ofString request.pairingName = nameField data ∧
    match request.reconnectToken with
    | none => tokenField data = []
    | some token => ∃ text, ofString text = tokenField data ∧ Uuid.ofText text = some token

/-- The first check that fails. -/
def firstFailing (data : List UInt8) : Option Check := Check.all.find? (Check.fails data)

/-- The texts of the two fields, read without any check. -/
def texts (data : List UInt8) : ClientRequest where
  pairingName := (toString? (nameField data)).getD ""
  reconnectToken := (toString? (tokenField data)).bind Uuid.ofText

theorem length_tokenField_le (data : List UInt8) : (tokenField data).length ≤ tokenLength :=
  (length_untilNul_le _).trans (List.length_take_le _ _)

theorem parseStr_tokenField (uuid : UuidGrammar) {data : List UInt8} {text : String}
    (read : toString? (tokenField data) = some text) : uuid.parseStr text = Uuid.ofText text := by
  apply uuid.parseStr_eq
  rw [toString?_eq_some.mp read]
  exact length_tokenField_le data

theorem fromUtf8_of_none {bytes : List UInt8} (invalid : toString? bytes = none) :
    fromUtf8 bytes = .error .invalidUtf8 := by
  rw [fromUtf8, invalid]

theorem fromUtf8_of_some {bytes : List UInt8} {text : String} (read : toString? bytes = some text) :
    fromUtf8 bytes = .ok text := by
  rw [fromUtf8, read]

theorem isEmpty_of_toString? {bytes : List UInt8} {text : String} (read : toString? bytes = some text) :
    bytes.isEmpty = decide (text = "") := by
  have bytes_eq := toString?_eq_some.mp read
  rw [← bytes_eq, Bool.eq_iff_iff, List.isEmpty_iff, decide_eq_true_eq, ofString_eq_nil]

/-- The decoder reports the first check that fails, and otherwise returns the texts. -/
theorem run_fromBytes (uuid : UuidGrammar) (data : List UInt8) :
    (fromBytes uuid.toUuidText data).run = some (match firstFailing data with
      | some check => .error (check.error data)
      | none => .ok (texts data)) := by
  by_cases short : data.length < clientRequestSize
  · simp [fromBytes, firstFailing, Check.all, Check.fails, Check.error, short]
  · rw [fromBytes_eq _ (Nat.not_lt.mp short), Decoder.run_sure]
    change some (ofFields _ (nameField data) (tokenField data)) = _
    cases name : toString? (nameField data) with
    | none =>
        simp [ofFields, fromUtf8_of_none name, firstFailing, Check.all, Check.fails, Check.error,
          short, name]
    | some pairingName =>
        have unnamed := isEmpty_of_toString? name
        by_cases empty : pairingName = ""
        · simp [ofFields, fromUtf8_of_some name, firstFailing, Check.all, Check.fails, Check.error,
            short, name, unnamed, empty]
        · cases field : toString? (tokenField data) with
          | none =>
              simp [ofFields, fromUtf8_of_some name, fromUtf8_of_none field, firstFailing, Check.all,
                Check.fails, Check.error, short, name, unnamed, empty, field]
          | some text =>
              have untold := isEmpty_of_toString? field
              by_cases absent : text = ""
              · simp [ofFields, fromUtf8_of_some name, fromUtf8_of_some field, firstFailing, Check.all,
                  Check.fails, short, name, unnamed, empty, field, untold, absent, texts, ofText_empty]
              · have parser := parseStr_tokenField uuid field
                cases found : Uuid.ofText text <;>
                  simp [ofFields, fromUtf8_of_some name, fromUtf8_of_some field, firstFailing, Check.all,
                    Check.fails, Check.error, short, name, unnamed, empty, field, untold, absent, texts,
                    parser, found]

theorem tokenField_passes_iff {data : List UInt8} {token : Option Uuid} :
    (match token with
      | none => tokenField data = []
      | some token => ∃ text, ofString text = tokenField data ∧ Uuid.ofText text = some token) ↔
      Check.fails data .tokenUtf8 = false ∧ Check.fails data .token = false ∧
        token = (texts data).reconnectToken := by
  cases field : toString? (tokenField data) with
  | none =>
      have unreadable : ∀ text, ofString text ≠ tokenField data := by
        intro text same
        rw [← toString?_eq_some, field] at same
        cases same
      have filled : tokenField data ≠ [] := fun empty => unreadable "" empty.symm
      cases token <;> simp [Check.fails, field, unreadable, filled]
  | some text =>
      have bytes := toString?_eq_some.mp field
      have empty : tokenField data = [] ↔ text = "" := by rw [← bytes, ofString_eq_nil]
      have same : ∀ other, ofString other = tokenField data ↔ other = text := by
        intro other
        rw [← bytes, ofString_injective.eq_iff]
      by_cases absent : text = ""
      · cases token <;> simp [Check.fails, texts, field, empty, same, absent, ofText_empty]
      · cases found : Uuid.ofText text with
        | none => cases token <;> simp [Check.fails, texts, field, empty, same, absent, found]
        | some value =>
            cases token with
            | none => simp [Check.fails, texts, field, empty, absent, found]
            | some token =>
                simp only [Check.fails, texts, field, same, found, exists_eq_left, Option.bind_some,
                  Option.isNone_some, Bool.and_false, true_and, Option.some.injEq]
                exact eq_comm

theorem nameField_passes_iff {data : List UInt8} {name : String} :
    (nameField data ≠ [] ∧ ofString name = nameField data) ↔
      Check.fails data .nameUtf8 = false ∧ Check.fails data .nameEmpty = false ∧
        name = (texts data).pairingName := by
  cases field : toString? (nameField data) with
  | none =>
      have unreadable : ofString name ≠ nameField data := by
        intro same
        rw [← toString?_eq_some, field] at same
        cases same
      simp [Check.fails, field, unreadable]
  | some text =>
      have bytes := toString?_eq_some.mp field
      have same : ofString name = nameField data ↔ name = text := by
        rw [← bytes, ofString_injective.eq_iff]
      simp [Check.fails, texts, field, same]

theorem holds_iff {data : List UInt8} {request : ClientRequest} :
    Holds data request ↔ firstFailing data = none ∧ request = texts data := by
  obtain ⟨name, token⟩ := request
  have long : clientRequestSize ≤ data.length ↔ Check.fails data .length = false := by
    simp [Check.fails]
  have every : firstFailing data = none ↔ Check.fails data .length = false ∧
      Check.fails data .nameUtf8 = false ∧ Check.fails data .nameEmpty = false ∧
        Check.fails data .tokenUtf8 = false ∧ Check.fails data .token = false := by
    simp [firstFailing, Check.all]
  rw [Holds, every, long, ← and_assoc (a := nameField data ≠ []), nameField_passes_iff,
    tokenField_passes_iff]
  constructor
  · intro parts
    obtain ⟨length, ⟨utf8, named, rfl⟩, tokenUtf8, valid, rfl⟩ := parts
    exact ⟨⟨length, utf8, named, tokenUtf8, valid⟩, rfl⟩
  · intro parts
    obtain ⟨⟨length, utf8, named, tokenUtf8, valid⟩, same⟩ := parts
    cases same
    exact ⟨length, ⟨utf8, named, rfl⟩, tokenUtf8, valid, rfl⟩

/-- The decoder accepts exactly the buffers that hold a request, and returns it; otherwise
    it reports the first check that fails. It never leaves the buffer, and of a buffer that
    is long enough it looks only at the two texts. -/
theorem accepts_exactly (uuid : UuidGrammar) (data : List UInt8) :
    (∃ outcome, (fromBytes uuid.toUuidText data).run = some outcome) ∧
    (∀ request, (fromBytes uuid.toUuidText data).run = some (.ok request) ↔ Holds data request) ∧
    (∀ e, (fromBytes uuid.toUuidText data).run = some (.error e) ↔
      ∃ check, firstFailing data = some check ∧ check.error data = e) ∧
    ∀ other : List UInt8, clientRequestSize ≤ data.length → clientRequestSize ≤ other.length →
      nameField other = nameField data → tokenField other = tokenField data →
      fromBytes uuid.toUuidText other = fromBytes uuid.toUuidText data := by
  refine ⟨⟨_, run_fromBytes uuid data⟩, ?_, ?_, ?_⟩
  · intro request
    rw [run_fromBytes, holds_iff]
    cases firstFailing data <;> simp [eq_comm]
  · intro e
    rw [run_fromBytes]
    cases firstFailing data <;> simp
  · intro other long longOther name token
    rw [fromBytes_eq _ long, fromBytes_eq _ longOther]
    change Decoder.sure (ofFields _ (nameField other) (tokenField other)) = _
    rw [name, token]
    rfl

/-! ## What the encoder and the decoder make of each other -/

/-- The encoder's cut does not fall into a character: the name fits, or byte 99 is a
    boundary (`str::is_char_boundary`). -/
def CutsWhole (name : String) : Prop :=
  (ofString name).length ≤ maxPairingName - 1 ∨ (⟨maxPairingName - 1⟩ : String.Pos.Raw).IsValid name

/-- The first 99 bytes of a name are the text of a part of it exactly when they do not end
    inside a character. -/
theorem cutsWhole_iff (name : String) :
    CutsWhole name ↔ ∃ front back, front ++ back = name ∧ ofString front = (ofString name).take 99 := by
  constructor
  · intro whole
    rcases whole with fits | boundary
    · exact ⟨name, "", by simp, (List.take_of_length_le fits).symm⟩
    · exact exists_ofString_eq_take boundary
  · intro parts
    obtain ⟨front, back, -, cut⟩ := parts
    by_cases fits : (ofString name).length ≤ maxPairingName - 1
    · exact .inl fits
    · exact .inr (isValid_of_ofString_eq_take (Nat.le_of_lt (Nat.not_le.mp fits)) cut)

/-- A request with a usable name is accepted after encoding, with the same token and a part
    of the name from its beginning, exactly when the name is not cut inside a character. -/
theorem accepted_after_encoding_iff (uuid : UuidText) (request : ClientRequest)
    (named : request.pairingName ≠ "") (plain : 0 ∉ ofString request.pairingName) :
    (∃ accepted : ClientRequest,
      (toBytes uuid request).bind (fun bytes => (fromBytes uuid bytes).run) = some (.ok accepted) ∧
        accepted.reconnectToken = request.reconnectToken ∧ accepted.pairingName ≠ "" ∧
          ∃ rest, accepted.pairingName ++ rest = request.pairingName) ↔
      CutsWhole request.pairingName := by
  obtain ⟨name, token⟩ := request
  have front : untilNul ((ofString name).take 99) = (ofString name).take 99 :=
    untilNul_eq_self.mpr fun member => plain (List.mem_of_mem_take member)
  rw [fromBytes_toBytes, front, cutsWhole_iff]
  constructor
  · intro decoded
    obtain ⟨accepted, decoded, -, -, rest, whole⟩ := decoded
    cases text : fromUtf8 ((ofString name).take 99) with
    | error e => simp [text] at decoded
    | ok kept =>
        by_cases empty : kept = ""
        · simp [text, empty] at decoded
        · simp only [text, empty, if_false, Option.some.injEq, Except.ok.injEq] at decoded
          subst decoded
          exact ⟨kept, rest, whole, fromUtf8_eq_ok.mp text⟩
  · intro parts
    obtain ⟨kept, rest, whole, cut⟩ := parts
    have filled : kept ≠ "" := by
      intro empty
      rw [empty, eq_comm] at cut
      have nothing : ofString name = [] := (List.take_eq_nil_iff.mp cut).resolve_left (by decide)
      exact named (ofString_eq_nil.mp nothing)
    refine ⟨⟨kept, token⟩, ?_, rfl, filled, rest, whole⟩
    simp only [fromUtf8_eq_ok.mpr cut, filled, if_false]

/-- A name of 98 ASCII characters and one of two bytes is cut in the middle of the last. -/
theorem long_name_rejected_after_encoding :
    let request : ClientRequest := ⟨String.ofList (List.replicate 98 'a' ++ ['é']), none⟩
    request.pairingName ≠ "" ∧ 0 ∉ ofString request.pairingName ∧
      (toBytes Uuid.text request).bind (fun bytes => (fromBytes Uuid.text bytes).run) =
        some (.error .invalidUtf8) := by
  decide +kernel

theorem short_name_accepted_after_encoding :
    let request : ClientRequest := ⟨"room", some ⟨7⟩⟩
    (∃ accepted : ClientRequest,
      (toBytes Uuid.text request).bind (fun bytes => (fromBytes Uuid.text bytes).run) =
          some (.ok accepted) ∧
        accepted.reconnectToken = request.reconnectToken ∧ accepted.pairingName ≠ "" ∧
          ∃ rest, accepted.pairingName ++ rest = request.pairingName) ↔
      CutsWhole request.pairingName :=
  accepted_after_encoding_iff Uuid.text ⟨"room", some ⟨7⟩⟩ (by decide) (by decide +kernel)

theorem name_of_accepted {uuid : UuidText} {data : List UInt8} {request : ClientRequest}
    (accepted : (fromBytes uuid data).run = some (.ok request)) :
    clientRequestSize ≤ data.length ∧ ofString request.pairingName = nameField data ∧
      request.pairingName ≠ "" := by
  by_cases short : data.length < clientRequestSize
  · simp [fromBytes, short] at accepted
  · have long := Nat.not_lt.mp short
    rw [fromBytes_eq _ long, Decoder.run_sure, Option.some.injEq] at accepted
    change ofFields uuid (nameField data) (tokenField data) = .ok request at accepted
    refine ⟨long, ?_⟩
    unfold ofFields at accepted
    split at accepted
    · cases accepted
    · rename_i name decoded
      split at accepted
      · cases accepted
      · rename_i named
        have kept : request.pairingName = name := by
          split at accepted
          · cases accepted
          · split at accepted
            · cases accepted
              rfl
            · split at accepted <;> cases accepted
              rfl
        rw [kept]
        exact ⟨fromUtf8_eq_ok.mp decoded, named⟩

/-- A request that the server accepted survives encoding exactly when its name had a
    terminator. -/
theorem survives_encoding_iff (uuid : UuidText) (data : List UInt8) (request : ClientRequest)
    (accepted : (fromBytes uuid data).run = some (.ok request)) :
    ((ofString request.pairingName).length ≤ maxPairingName - 1 ∧
        (toBytes uuid request).bind (fun bytes => (fromBytes uuid bytes).run) = some (.ok request)) ↔
      0 ∈ data.take maxPairingName := by
  obtain ⟨long, name, named⟩ := name_of_accepted accepted
  have absent : 0 ∉ ofString request.pairingName := by
    rw [name]
    exact zero_notMem_untilNul _
  have size : (data.take maxPairingName).length = maxPairingName :=
    List.length_take_of_le (Nat.le_trans (by decide) long)
  have shorter := length_untilNul_lt_iff (a := data.take maxPairingName)
  rw [size, ← nameField, ← name] at shorter
  rw [request_roundtrip_iff, ← shorter]
  constructor
  · intro fits
    exact Nat.lt_of_le_of_lt fits.1 (by decide)
  · intro fits
    have short : (ofString request.pairingName).length ≤ maxPairingName - 1 := Nat.le_sub_one_of_lt fits
    exact ⟨short, named, absent, short⟩

/-- A name field without a terminator is accepted with all its 100 bytes and loses the
    last one in the next encoding. -/
theorem unterminated_name_changes :
    let request : ClientRequest := ⟨String.ofList (List.replicate 100 'a'), none⟩
    (fromBytes Uuid.text (List.replicate 100 97 ++ zeros 41)).run = some (.ok request) ∧
      (toBytes Uuid.text request).bind (fun bytes => (fromBytes Uuid.text bytes).run) =
        some (.ok ⟨String.ofList (List.replicate 99 'a'), none⟩) := by
  decide +kernel

theorem terminated_name_survives :
    let data : List UInt8 := List.replicate 99 97 ++ zeros 42
    let request : ClientRequest := ⟨String.ofList (List.replicate 99 'a'), none⟩
    ((ofString request.pairingName).length ≤ maxPairingName - 1 ∧
        (toBytes Uuid.text request).bind (fun bytes => (fromBytes Uuid.text bytes).run) =
          some (.ok request)) ↔
      0 ∈ data.take maxPairingName :=
  survives_encoding_iff Uuid.text _ _ (by decide +kernel)

end ClientRequest

end TCPunch
