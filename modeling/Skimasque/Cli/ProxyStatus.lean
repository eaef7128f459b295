import Skimasque.Gateway.ProxyStatus

/-! Reading the detail back out of a gateway's `Proxy-Status` value. -/

set_option autoImplicit false

namespace Skimasque.Cli
open Library Gateway

/-- The loop over the characters after the opening quote; `out` is what was read so far. -/
def undoEscapes (out : List Char) : List Char → Option (List Char)
  | [] => none
  | '\\' :: [] => none
  | '\\' :: c :: rest => undoEscapes (out ++ [c]) rest
  | '"' :: _ => some out
  | c :: rest => undoEscapes (out ++ [c]) rest

/-- The `details` string parameter of a value, with its escapes undone. -/
def proxyStatusDetails (value : String) : Option String := do
  let (_, rest) ← Text.splitAtText "details=\"".toList value.toList
  let out ← undoEscapes [] rest
  return String.ofList out

example : proxyStatusDetails "skimasque; error=dns_error; details=\"say \\\"hi\\\"\"" = some "say \"hi\"" := by decide

/-- The loop is the scan of quoted text. -/
theorem undoEscapes_eq (out chars : List Char) :
    undoEscapes out chars = (Quoted.scan detailMarks chars).map (out ++ ·) := by
  induction out, chars using undoEscapes.induct with
  | case1 out => rfl
  | case2 out => rfl
  | case3 out c rest ih =>
    rw [undoEscapes, ih, show '\\' = detailMarks.slash from rfl, Quoted.scan_slash, Option.map_map]
    congr 1
    funext text
    simp
  | case4 out rest =>
    rw [undoEscapes, show '"' = detailMarks.quote from rfl, Quoted.scan_quote]
    simp
  | case5 out c rest notEnd notSlash notQuote ih =>
    have slash : c ≠ '\\' := by
      rintro rfl
      cases rest with
      | nil => exact notEnd rfl rfl
      | cons next rest => exact notSlash next rest rfl rfl
    have plain : Quoted.isMark detailMarks c = false := by
      simp [Quoted.isMark, detailMarks, slash, show c ≠ '"' from notQuote]
    rw [Quoted.scan_plain plain, Option.map_map, undoEscapes.eq_5 out c rest notEnd notSlash notQuote, ih]
    congr 1
    funext text
    simp

/-- Everything up to the key of the parameter. -/
theorem details_of_proxyStatus {error : String} (proxyName detail : String) (token : IsToken error) :
    proxyStatusDetails (proxyStatus proxyName error detail) =
      (Quoted.scan detailMarks ((structuredString detail).toList ++ [detailMarks.quote])).map String.ofList := by
  have frontClear : '"' ∉ (structuredToken proxyName).toList ++ "; error=".toList ++ error.toList ++ "; ".toList := by
    simp only [List.mem_append, not_or]
    refine ⟨⟨⟨fun member => ?_, by decide⟩, fun member => ?_⟩, by decide⟩
    · exact ((structuredToken_isToken proxyName).visible _ member).2.2 rfl
    · exact (token.visible _ member).2.2 rfl
  have key : "details=\"".toList = "details=".toList ++ ['"'] := by decide
  have found := @Text.splitAtText_append "details=".toList _ ((structuredString detail).toList ++ [detailMarks.quote]) '"'
    (by decide) frontClear
  rw [← key] at found
  have whole : (proxyStatus proxyName error detail).toList = (structuredToken proxyName).toList ++ "; error=".toList ++
      error.toList ++ "; ".toList ++ "details=\"".toList ++ ((structuredString detail).toList ++ [detailMarks.quote]) := by
    simp only [proxyStatus, String.toList_append]
    simp [detailMarks]
  simp only [proxyStatusDetails, whole, found, undoEscapes_eq, bind, Option.bind_some]
  cases Quoted.scan detailMarks ((structuredString detail).toList ++ [detailMarks.quote]) with
  | none => rfl
  | some text => rfl

/-- Where the cut leaves a backslash alone, it takes the closing quote, and nothing is read. -/
theorem unread_of_severed {error detail : String} (proxyName : String) (token : IsToken error)
    (severed : Quoted.Severed detailMarks 256 (shownDetail detail)) :
    proxyStatusDetails (proxyStatus proxyName error detail) = none := by
  obtain ⟨kept, cut⟩ := Quoted.take_of_severed severed
  rw [details_of_proxyStatus proxyName detail token, structuredString_toList, cut, List.append_assoc]
  simp only [List.singleton_append, Quoted.scan_severed, Option.map_none]

/-- The refusal carries the header; the header is one well-formed item; the client reads it as text and
the detail out of it, whole or, where its escaped form is too long, cut. -/
def Agrees (rejection : Rejection) (error proxyName : String) : Prop :=
  ∃ value text shown, HeaderMap.get (rejectionResponse rejection proxyName).headers "proxy-status" = some value ∧
    HeaderValue.toStr value = some text ∧ WellFormedItem text error ∧ proxyStatusDetails text = some shown ∧
    shown.toList <+: shownDetail rejection.detail ∧
    ((Quoted.escape detailMarks (shownDetail rejection.detail)).length ≤ 256 →
      shown.toList = shownDetail rejection.detail)

variable {rejection : Rejection} {error : String} {proxyName : String}

theorem Agrees.clean (refused : rejection.proxyError = some error) (token : IsToken error)
    (agrees : Agrees rejection error proxyName) : KeptClean rejection.detail := by
  obtain ⟨value, text, shown, got, read, -, details, -⟩ := agrees
  rw [get_proxyStatus proxyName refused token, Option.some.injEq] at got
  rw [← got] at read
  have ascii := ascii_of_read read
  refine ⟨fun front c back whole short => ?_, fun severed => ?_⟩
  · by_contra high
    have kept := (mem_structuredString_iff (Nat.le_of_not_lt high)).mpr ⟨front, back, whole, short⟩
    exact high (ascii c kept)
  · rw [toStr_proxyStatus proxyName token ascii, Option.some.injEq] at read
    rw [← read, unread_of_severed proxyName token severed] at details
    cases details

theorem agrees_of_clean (refused : rejection.proxyError = some error) (token : IsToken error)
    (clean : KeptClean rejection.detail) : Agrees rejection error proxyName := by
  obtain ⟨kept, front, cut, all⟩ := Quoted.take_of_not_severed clean.2
  refine ⟨_, _, String.ofList kept, get_proxyStatus proxyName refused token,
    toStr_proxyStatus proxyName token clean.ascii, proxyStatus_wellFormed proxyName token clean, ?_, ?_⟩
  · rw [details_of_proxyStatus proxyName rejection.detail token, structuredString_toList, cut, Quoted.scan_escape]
    rfl
  · rw [String.toList_ofList]
    exact ⟨front, all⟩

/-- Encoder and decoder agree on a detail exactly when the characters that start before the cut are
ASCII and the cut parts no backslash from the character it escapes. -/
theorem proxy_status_agrees_iff (refused : rejection.proxyError = some error) (token : IsToken error) :
    Agrees rejection error proxyName ↔ KeptClean rejection.detail :=
  ⟨Agrees.clean refused token, agrees_of_clean refused token⟩

theorem isToken_denied : IsToken "http_request_denied" :=
  ⟨'h', "ttp_request_denied".toList, rfl, .inl rfl, List.all_eq_true.mp (by decide)⟩

/-- A refusal by a policy. -/
def denial (detail : String) : Rejection := (Rejection.new 403 detail).withProxyError "http_request_denied"

theorem quoted_detail_is_read : Agrees (denial "say \"hi\"") "http_request_denied" "my proxy!" := by
  have checked : (denial "say \"hi\"").detail.toList.all (fun c => decide (c.toNat < 128)) = true := by decide
  have clean : KeptClean (denial "say \"hi\"").detail :=
    keptClean_of_short (fun c member => of_decide_eq_true (List.all_eq_true.mp checked c member)) (by decide)
  exact (proxy_status_agrees_iff rfl isToken_denied).mpr clean

/-- A quote after `n` other characters. -/
def quoteAfter (n : Nat) : String := String.ofList (List.replicate n 'x' ++ ['"'])

theorem severed_quoteAfter (n : Nat) : Quoted.Severed detailMarks (n + 1) (shownDetail (quoteAfter n)) := by
  have visible : Text.isControl 'x' = false ∧ Text.isControl '"' = false := by decide
  have plain : Quoted.isMark detailMarks 'x' = false := by decide
  refine ⟨List.replicate n 'x', '"', [], ?_, by decide, ?_⟩
  · simp [shownDetail, quoteAfter, visible]
  · simp [Quoted.escape, Quoted.escapeOne, plain]

/-- A host name outside ASCII, and a quote as the character after 255 others. -/
theorem details_are_not_read :
    ¬ Agrees (denial "caf\u00e9.example:443") "http_request_denied" "skimasque" ∧
      ¬ Agrees (denial (quoteAfter 255)) "http_request_denied" "skimasque" := by
  constructor
  · intro agrees
    have clean := agrees.clean rfl isToken_denied
    have kept : '\u00e9' ∈ (structuredString (denial "caf\u00e9.example:443").detail).toList := by decide +kernel
    exact absurd (clean.ascii _ kept) (by decide)
  · intro agrees
    have clean := agrees.clean rfl isToken_denied
    exact clean.2 (severed_quoteAfter 255)

end Skimasque.Cli
