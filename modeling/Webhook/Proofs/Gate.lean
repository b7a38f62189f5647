import Webhook.Proofs.Handler
import Webhook.Proofs.Http.MediaTypes

/-!
# Which calls are let in

A handler looks at the first value that announces the media type of a body, and at nothing else in
the headers.  If this value can be read and is the media type of JSON, the body is all that counts
from there on (`Handler.LetsIn`).  If not, every call is refused with the words of the value, without
a look at the body (`Handler.TurnsAway`).  `Headers.Announces` says what these words are.

`Handler.letsIn_or_turnsAway` puts this together.  It also says which differences between headers do
not matter, and names some of the values that are turned away (`IsForeign`).
-/

namespace Webhook

open Http (Headers)

/-! ## What headers announce -/

namespace Http.Headers

variable {headers : Headers}

/-- What headers announce the media type of a body to be. -/
inductive Announces (headers : Headers) : String → Prop where
  /-- The text of the first value. -/
  | value {value : Bytes} {text : String} : headers.first? "content-type" = some value →
      readable? value = some text → Announces headers text
  /-- Nothing, if some byte of the first value cannot be read. -/
  | unreadable {value : Bytes} : headers.first? "content-type" = some value →
      (∃ b ∈ value, isReadable b = false) → Announces headers ""
  /-- Nothing, if there is no value. -/
  | absent : headers.first? "content-type" = none → Announces headers ""

theorem readable?_eq_none {value : Bytes} :
    readable? value = none ↔ ∃ b ∈ value, isReadable b = false := by
  rw [readable?]
  by_cases hall : value.all isReadable = true
  · rw [if_pos hall]
    simpa using hall
  · rw [if_neg hall]
    simpa using hall

theorem announces_text (headers : Headers) : headers.Announces (headers.text "content-type") := by
  rw [text]
  cases hfirst : headers.first? "content-type" with
  | none => exact .absent hfirst
  | some value =>
      cases hread : readable? value with
      | none =>
          rw [Option.bind_some, hread]
          exact .unreadable hfirst (readable?_eq_none.mp hread)
      | some text =>
          rw [Option.bind_some, hread]
          exact .value hfirst hread

theorem Announces.eq_text {announced : String} (h : headers.Announces announced) :
    headers.text "content-type" = announced := by
  rw [text]
  cases h with
  | value hfirst hread => rw [hfirst, Option.bind_some, hread, Option.getD_some]
  | unreadable hfirst hbyte =>
      rw [hfirst, Option.bind_some, readable?_eq_none.mpr hbyte, Option.getD_none]
  | absent hfirst => rw [hfirst, Option.bind_none, Option.getD_none]

/-- Other headers and further values make no difference. -/
theorem text_first {before after : Headers} {name : String} {value : Bytes}
    (hbefore : ∀ h ∈ before, Text.sameUpToAsciiCase h.1 "content-type" = false)
    (hname : Text.sameUpToAsciiCase name "content-type" = true) :
    text (before ++ (name, value) :: after) "content-type"
      = text [("content-type", value)] "content-type" := by
  have hnone : before.find? (fun h => Text.sameUpToAsciiCase h.1 "content-type") = none := by
    rw [List.find?_eq_none]
    intro h hh
    rw [hbefore h hh]
    exact Bool.false_ne_true
  have hfirst : first? (before ++ (name, value) :: after) "content-type" = some value := by
    rw [first?, List.find?_append, hnone, Option.none_or, List.find?_cons, hname]
    rfl
  have hsame : Text.sameUpToAsciiCase "content-type" "content-type" = true := by decide +kernel
  have hsingle : first? [("content-type", value)] "content-type" = some value := by
    rw [first?, List.find?_singleton, hsame]
    rfl
  rw [text, text, hfirst, hsingle]

/-- Without a value under the name there is nothing to read. -/
theorem text_absent (h : ∀ h ∈ headers, Text.sameUpToAsciiCase h.1 "content-type" = false) :
    headers.text "content-type" = text [] "content-type" := by
  have hnone : headers.first? "content-type" = none := by
    rw [first?, Option.map_eq_none_iff, List.find?_eq_none]
    intro header hheader
    rw [h header hheader]
    exact Bool.false_ne_true
  rw [text, hnone]
  rfl

end Http.Headers

/-! ## Texts that are not the media type of JSON -/

namespace Http.MediaType

variable {text base parameters : List Char}

theorem IsJsonText.essence (h : IsJsonText text) :
    (essence text).map Char.toLower = "application/json".toList := by
  obtain ⟨htype, hsubtype, hparameters⟩ := h
  rw [essence_eq (isToken_application htype) (isToken_json hsubtype).2 hparameters,
    map_toLower_essence]
  exact ⟨htype, hsubtype⟩

/-- Parameters have no part in what a text is the media type of. -/
theorem isJsonText_append (hbase : ∀ c ∈ base, c ≠ ';') (hparameters : IsParameters parameters) :
    IsJsonText (base ++ parameters) ↔ IsJsonText base := by
  have hessence : MediaType.essence (base ++ parameters) = base := essence_append hbase hparameters
  constructor
  · intro h
    generalize heq : base ++ parameters = text at h
    rw [heq] at hessence
    obtain ⟨htype, hsubtype, hmore⟩ := h
    rw [essence_eq (isToken_application htype) (isToken_json hsubtype).2 hmore] at hessence
    rw [← hessence, ← List.append_nil (_ ++ _ :: _), List.append_assoc, List.cons_append]
    exact .mk htype hsubtype .none
  · intro h
    obtain ⟨htype, hsubtype, hmore⟩ := h
    rename_i type subtype more
    -- without a semicolon there are no parameters yet
    have hnone : more = [] := by
      cases hmore with
      | none => rfl
      | ended hblanks => exact absurd rfl (hbase ';' (by simp))
      | named hblanks hname hassigned => exact absurd rfl (hbase ';' (by simp))
    rw [hnone, List.append_nil, List.append_assoc, List.cons_append]
    exact .mk htype hsubtype hparameters

/-- Some ways in which a text is not the media type of JSON. -/
inductive IsForeign : List Char → Prop where
  /-- A media type with another type or subtype. -/
  | other {type subtype parameters : List Char} : IsToken type → IsToken subtype →
      IsParameters parameters →
      (type ++ '/' :: subtype).map Char.toLower ≠ "application/json".toList →
      IsForeign (type ++ '/' :: (subtype ++ parameters))
  /-- The type and the subtype of JSON, where something other than parameters follows. -/
  | longer {lead rest : List Char} {c : Char} :
      lead.map Char.toLower = "application/json".toList → c ≠ ';' → IsForeign (lead ++ c :: rest)
  /-- A list, whose first item is a media type. -/
  | list {item blanks rest : List Char} : IsMediaType item → IsBlanks blanks →
      IsForeign (item ++ (blanks ++ ',' :: rest))
  /-- A list, whose first item has no quotes. -/
  | plainList {item rest : List Char} : (∀ c ∈ item, c ≠ '"') → IsForeign (item ++ ',' :: rest)

theorem IsForeign.not_isJsonText (h : IsForeign text) : ¬ IsJsonText text := by
  intro hjson
  have hessence := hjson.essence
  cases h with
  | other htype hsubtype hparameters hother =>
      rw [essence_eq htype hsubtype.2 hparameters] at hessence
      exact hother hessence
  | @longer lead rest c hlead hc =>
      -- the letter after the subtype belongs to the essence, which is too long with it
      have hkept : ∀ d ∈ lead, (d != ';') = true := by
        intro d hd
        rw [bne_iff_ne]
        rintro rfl
        have hlower : Char.toLower ';' ∈ "application/json".toList :=
          hlead ▸ List.mem_map_of_mem hd
        revert hlower
        decide
      rw [MediaType.essence, List.takeWhile_append_of_pos hkept,
        List.takeWhile_cons, if_pos (bne_iff_ne.mpr hc), List.map_append, hlead] at hessence
      exact absurd (List.append_right_eq_self.mp hessence) (List.cons_ne_nil _ _)
  | list hitem hblanks => exact hitem.not_list hblanks _ hjson.isMediaType
  | plainList hitem => exact not_isMediaType_comma hitem _ hjson.isMediaType

end Http.MediaType

open Http.MediaType (IsJsonText IsForeign IsParameters isJson_iff isJsonText_append)

namespace Handler

/-! ## Letting in and turning away -/

/-- Headers with which the body is all that counts. -/
def LetsIn (headers : Headers) : Prop := ∀ body, readCall headers body = Review.decode body

/-- Headers with which every call is refused as one that is announced as something else. -/
structure TurnsAway (headers : Headers) (announced : String) : Prop where
  /-- Nothing comes of the body. -/
  call : ∀ body, readCall headers body = .error (.contentType announced)
  /-- The caller is told what was announced, and no policy is asked. -/
  refuses : ∀ (h : Handler) path body,
    (h.handle path headers body).Refuses (.contentType announced)
  /-- The body has no part in it. -/
  blind : ∀ (h : Handler) path body body',
    h.handle path headers body = h.handle path headers body'

variable {headers headers' : Headers}

theorem letsIn_of_isJson (h : Http.MediaType.isJson (headers.text "content-type") = true) :
    LetsIn headers := by
  intro body
  rw [readCall]
  simp only [h, if_true]

theorem turnsAway_of_not_isJson
    (h : Http.MediaType.isJson (headers.text "content-type") = false) :
    TurnsAway headers (headers.text "content-type") := by
  have hcall : ∀ body,
      readCall headers body = .error (.contentType (headers.text "content-type")) := by
    intro body
    rw [readCall]
    simp only [h, Bool.false_eq_true, if_false]
  refine ⟨hcall, fun handler path body => handler.refuses_of_error path (hcall body), ?_⟩
  intro handler path body body'
  rw [handle, handle, hcall, hcall]

end Handler

namespace Review

theorem ofEnvelope_ne_contentType (apiVersion kind : Option String) (request : Option Request)
    (announced : String) :
    ofEnvelope apiVersion kind request ≠ .error (.contentType announced) := by
  intro h
  unfold ofEnvelope at h
  cases request with
  | none | some _ =>
      simp only at h
      split at h
      · cases h
      · split at h
        · cases h
        · cases h

/-- Decoding a body finds no fault with how it was announced. -/
theorem decode_ne_contentType (body : Bytes) (announced : String) :
    decode body ≠ .error (.contentType announced) := by
  rw [decode]
  cases envelopeShape.readText body with
  | error fault =>
      intro h
      cases h
  | ok read =>
      obtain ⟨apiVersion, kind, request, -⟩ := read
      exact ofEnvelope_ne_contentType apiVersion kind _ announced

end Review

namespace Handler

variable {headers headers' : Headers}

theorem letsIn_iff_isJson :
    LetsIn headers ↔ Http.MediaType.isJson (headers.text "content-type") = true := by
  constructor
  · intro h
    rw [← Bool.not_eq_false]
    intro hjson
    have haway := (turnsAway_of_not_isJson hjson).call []
    exact Review.decode_ne_contentType [] _ ((h []).symm.trans haway)
  · exact letsIn_of_isJson

theorem letsIn_iff {announced : String} (h : headers.Announces announced) :
    LetsIn headers ↔ IsJsonText announced.toList := by
  rw [letsIn_iff_isJson, h.eq_text, isJson_iff]

theorem turnsAway_of_not {announced : String} (h : headers.Announces announced)
    (hjson : ¬ IsJsonText announced.toList) : TurnsAway headers announced := by
  have hnot : Http.MediaType.isJson (headers.text "content-type") = false := by
    rw [h.eq_text, ← Bool.not_eq_true, isJson_iff]
    exact hjson
  have haway := turnsAway_of_not_isJson hnot
  rwa [h.eq_text] at haway

/-- Headers that announce the same are as good as each other. -/
theorem handle_congr_headers (htext : headers'.text "content-type" = headers.text "content-type")
    (h : Handler) (path : String) (body : Bytes) :
    h.handle path headers' body = h.handle path headers body := by
  rw [handle, handle, readCall, readCall, htext]

theorem handle_of_letsIn (hin : LetsIn headers) (hin' : LetsIn headers') (h : Handler)
    (path : String) (body : Bytes) : h.handle path headers' body = h.handle path headers body := by
  rw [handle, handle, hin body, hin' body]

/-- A byte that is not visible keeps a value from being the media type of JSON, also one that can
be read. -/
theorem not_isJsonText_of_byte {value : Bytes} {text : String}
    (hread : Headers.readable? value = some text) (hbyte : ∃ b ∈ value, b < 32 ∨ 127 ≤ b) :
    ¬ IsJsonText text.toList := by
  intro hjson
  obtain ⟨b, hb, hrange⟩ := hbyte
  rw [Headers.readable?, Option.ite_none_right_eq_some] at hread
  obtain ⟨hall, hread⟩ := hread
  obtain rfl := Option.some.inj hread
  have hvisible : Http.MediaType.isQuotedChar (Char.ofNat b.toNat) = true := by
    refine hjson.isMediaType.isQuotedChar _ ?_
    rw [String.toList_ofList]
    exact List.mem_map_of_mem hb
  have htab : b = 9 := by
    have hreadable := List.all_eq_true.mp hall b hb
    rw [Headers.isReadable, Bool.or_eq_true, beq_iff_eq, Bool.and_eq_true, decide_eq_true_eq,
      decide_eq_true_eq] at hreadable
    rcases hreadable with htab | ⟨hlow, hhigh⟩
    · exact htab
    · rcases hrange with hrange | hrange
      · exact absurd hlow (UInt8.not_le.mpr hrange)
      · exact absurd hhigh (UInt8.not_lt.mpr hrange)
  rw [htab] at hvisible
  revert hvisible
  decide

/-- A call is let in for a value that can be read: without one nothing is announced. -/
theorem exists_value {announced : String} (h : headers.Announces announced)
    (hjson : IsJsonText announced.toList) : ∃ value, headers.first? "content-type" = some value ∧
      Headers.readable? value = some announced := by
  have hempty : ¬ IsJsonText "".toList := by
    rw [← isJson_iff]
    decide +kernel
  cases h with
  | value hfirst hread => exact ⟨_, hfirst, hread⟩
  | unreadable hfirst hbyte => exact absurd hjson hempty
  | absent hfirst => exact absurd hjson hempty

/-! ## The gate -/

/-- A call is let in exactly if the first value that announces its media type can be read and is
the media type of JSON.  Every other call is refused with the words of the value, whatever its body
is.  Other headers, further values and the parameters of the first one have no part in this. -/
theorem letsIn_or_turnsAway (headers : Headers) :
    (LetsIn headers ↔ ∃ value text, headers.first? "content-type" = some value ∧
      Headers.readable? value = some text ∧ IsJsonText text.toList) ∧
    (∀ announced, headers.Announces announced →
      (TurnsAway headers announced ↔ ¬ LetsIn headers)) ∧
    (∀ before name value after, headers = before ++ (name, value) :: after →
      (∀ h ∈ before, Text.sameUpToAsciiCase h.1 "content-type" = false) →
      Text.sameUpToAsciiCase name "content-type" = true →
      ∀ (h : Handler) path body,
        h.handle path headers body = h.handle path [("content-type", value)] body) ∧
    ((∀ h ∈ headers, Text.sameUpToAsciiCase h.1 "content-type" = false) →
      ∀ (h : Handler) path body, h.handle path headers body = h.handle path [] body) ∧
    (∀ headers' base parameters parameters', (∀ c ∈ base, c ≠ ';') → IsParameters parameters →
      IsParameters parameters' → headers.Announces (String.ofList (base ++ parameters)) →
      headers'.Announces (String.ofList (base ++ parameters')) →
      (LetsIn headers' ↔ LetsIn headers) ∧
      (LetsIn headers → ∀ (h : Handler) path body,
        h.handle path headers' body = h.handle path headers body)) ∧
    (∀ announced, headers.Announces announced → IsForeign announced.toList →
      TurnsAway headers announced) ∧
    (∀ value, headers.first? "content-type" = some value → (∃ b ∈ value, b < 32 ∨ 127 ≤ b) →
      ∃ announced, headers.Announces announced ∧ TurnsAway headers announced) := by
  refine ⟨?_, fun announced h => ⟨fun haway hin => ?_, fun hout => ?_⟩,
    fun before name value after heq hbefore hname h path body => ?_,
    fun hother h path body => ?_,
    fun headers' base parameters parameters' hbase hparameters hparameters' h h' => ?_,
    fun announced h hforeign => turnsAway_of_not h hforeign.not_isJsonText,
    fun value hfirst hbyte => ?_⟩
  · constructor
    · intro hin
      have hjson := (letsIn_iff headers.announces_text).mp hin
      obtain ⟨value, hfirst, hread⟩ := exists_value headers.announces_text hjson
      exact ⟨value, _, hfirst, hread, hjson⟩
    · rintro ⟨value, text, hfirst, hread, hjson⟩
      exact (letsIn_iff (.value hfirst hread)).mpr hjson
  · exact Review.decode_ne_contentType [] announced ((hin []).symm.trans (haway.call []))
  · exact turnsAway_of_not h fun hjson => hout ((letsIn_iff h).mpr hjson)
  · rw [heq]
    exact handle_congr_headers (Headers.text_first hbefore hname) h path body
  · exact handle_congr_headers (Headers.text_absent hother) h path body
  · have hsame : LetsIn headers' ↔ LetsIn headers := by
      rw [letsIn_iff h, letsIn_iff h', String.toList_ofList, String.toList_ofList,
        isJsonText_append hbase hparameters, isJsonText_append hbase hparameters']
    exact ⟨hsame, fun hin => handle_of_letsIn hin (hsame.mpr hin)⟩
  · refine ⟨_, headers.announces_text, turnsAway_of_not headers.announces_text fun hjson => ?_⟩
    obtain ⟨value', hfirst', hread⟩ := exists_value headers.announces_text hjson
    obtain rfl := Option.some.inj (hfirst.symm.trans hfirst')
    exact not_isJsonText_of_byte hread hbyte hjson

/-- A value in letters of both cases, with parameters, after another header and before another
value is let in.  A list is turned away, and so is a value that is not text. -/
theorem letsIn_or_turnsAway_samples :
    LetsIn [("accept", Utf8.encode "*/*"),
      ("Content-Type", Utf8.encode "Application/JSON; a=\"b;,\" ; c="),
      ("content-type", Utf8.encode "text/plain")] ∧
    TurnsAway [("content-type", Utf8.encode "application/json, text/plain")]
      "application/json, text/plain" ∧
    TurnsAway [("content-type", Utf8.encode "application/json" ++ [200])] "" := by
  refine ⟨(letsIn_or_turnsAway _).1.mpr ⟨Utf8.encode "Application/JSON; a=\"b;,\" ; c=",
    "Application/JSON; a=\"b;,\" ; c=", by decide +kernel, by decide +kernel,
    isJson_iff.mp (by decide +kernel)⟩, ?_, ?_⟩
  · refine (letsIn_or_turnsAway _).2.2.2.2.2.1 _ (.value rfl (by decide +kernel)) ?_
    have hsplit : "application/json, text/plain".toList
        = "application/json".toList ++ ([] ++ ',' :: " text/plain".toList) := by decide
    rw [hsplit]
    exact .list (Http.MediaType.isWellFormed_iff.mp (by decide +kernel))
      fun c hc => absurd hc List.not_mem_nil
  · obtain ⟨announced, hannounces, haway⟩ := (letsIn_or_turnsAway
      [("content-type", Utf8.encode "application/json" ++ [200])]).2.2.2.2.2.2 _ rfl
        ⟨200, List.mem_append_right _ (.head _), by decide⟩
    have hnothing : "" = announced := Eq.trans (by decide +kernel) hannounces.eq_text
    rwa [← hnothing] at haway

end Handler
end Webhook
