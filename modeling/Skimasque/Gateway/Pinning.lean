import Skimasque.Gateway.Naming

/-! Pinning a policy by header: what a pin that does not name the selected policy does to a request. -/

set_option autoImplicit false

namespace Skimasque.Gateway
open Library Library.Address Engine Skimasque.Core

def policyHeader : String := "x-masque-policy"

/-- The values of the header, in order. -/
def HeaderMap.pins (headers : HeaderMap) : List HeaderValue :=
  (headers.filter fun header => header.1 == policyHeader).map Prod.snd

/-- A policy's name as it stands in a header value. -/
def nameBytes (name : String) : HeaderValue := name.toList.flatMap String.utf8EncodeChar

/-- Rejected whatever is inside: the inner service is not called. -/
def Rejects (layer : Service → Service) (request : TunnelRequest) : Prop :=
  ∀ world, ∃ rejection after, ∀ inner, layer inner request world = (.error rejection, after)

/-- The policy a layer selects for the identity of a request. -/
def Enforce.selected (layer : Enforce) (request : TunnelRequest) : Option Policy :=
  match layer.policies.choose request with
  | .ok (policies, _) => policies.select (request.extensions.workload.getD {})
  | .error _ => none

/-- The request carries a pin, and it is not the name of the selected policy. -/
def Mispinned (layer : Enforce) (request : TunnelRequest) : Prop :=
  ∃ value ∈ HeaderMap.pins request.headers, value ≠ [] ∧
    ∀ policy, layer.selected request = some policy → value ≠ nameBytes policy.name

/-- The first value is text, and each further one repeats it or is empty. -/
def PinsAgree : List HeaderValue → Prop
  | [] => True
  | first :: rest => (HeaderValue.toStr first).isSome = true ∧ ∀ value ∈ rest, value = [] ∨ value = first

/-! ## Header values -/

theorem get_policyHeader (headers : HeaderMap) :
    HeaderMap.get headers policyHeader = (HeaderMap.pins headers).head? := by
  rw [HeaderMap.get, HeaderMap.pins, List.head?_map, ← List.head?_filter]

theorem requestedPolicy_eq (request : TunnelRequest) :
    request.requestedPolicy =
      ((HeaderMap.pins request.headers).head?.bind HeaderValue.toStr).filter (!Text.isEmpty ·) := by
  rw [← get_policyHeader]
  rfl

theorem toStr_eq_some_iff {value : HeaderValue} {text : String} :
    HeaderValue.toStr value = some text ↔
      (∀ byte ∈ value, (32 ≤ byte ∧ byte < 127) ∨ byte = 9) ∧
        String.ofList (value.map fun byte => Char.ofNat byte.toNat) = text := by
  simp [HeaderValue.toStr]

theorem utf8EncodeChar_ascii {byte : UInt8} (ascii : byte.toNat < 128) :
    String.utf8EncodeChar (Char.ofNat byte.toNat) = [byte] := by
  have value : (Char.ofNat byte.toNat).toNat = byte.toNat := by
    rw [Char.ofNat, dif_pos (.inl (by omega))]
    rfl
  have single : (Char.ofNat byte.toNat).utf8Size = 1 := by
    rw [Char.utf8Size, if_pos]
    rw [UInt32.le_iff_toNat_le, Char.toNat_val, value]
    exact Nat.le_of_lt_succ ascii
  rw [String.utf8EncodeChar_eq_singleton single, List.cons.injEq, ← UInt8.toNat_inj,
    UInt32.toNat_toUInt8, Char.toNat_val, value]
  exact ⟨Nat.mod_eq_of_lt (by omega), rfl⟩

/-- Text in a header value is ASCII, so the name it pins has the same bytes. -/
theorem nameBytes_toStr {value : HeaderValue} {text : String} (read : HeaderValue.toStr value = some text) :
    nameBytes text = value := by
  obtain ⟨visible, rfl⟩ := toStr_eq_some_iff.mp read
  rw [nameBytes, String.toList_ofList, List.flatMap_map]
  clear read
  induction value with
  | nil => rfl
  | cons byte rest ih =>
    have ascii : byte.toNat < 128 := by
      rcases visible byte List.mem_cons_self with ⟨-, below⟩ | rfl
      · have := UInt8.lt_iff_toNat_lt.mp below
        simp at this
        omega
      · decide
    rw [List.flatMap_cons, utf8EncodeChar_ascii ascii, ih fun byte member => visible byte (List.mem_cons_of_mem _ member)]
    rfl

/-! ## What the layer does with a pin -/

section
variable {layer : Enforce} {request : TunnelRequest}

theorem decision_allow_iff {allowed : Allowed} :
    layer.decision request = some (.allow allowed) ↔
      ∃ target policies orgId, request.target = some target ∧ layer.policies.choose request = .ok (policies, orgId) ∧
        policies.evaluate (requestContext request target) = .allow allowed := by
  unfold Enforce.decision
  cases request.target with
  | none => simp
  | some target =>
    cases layer.policies.choose request with
    | error rejection => simp
    | ok chosen =>
      obtain ⟨policies, orgId⟩ := chosen
      simp

theorem rejects_iff (enforced : layer.mode = .enforce) :
    Rejects layer.call request ↔ ∀ allowed, layer.decision request ≠ some (.allow allowed) := by
  constructor
  · intro rejects allowed decided
    obtain ⟨target, policies, orgId, targeted, chosen, granted⟩ := decision_allow_iff.mp decided
    -- An inner service that accepts whatever reaches it.
    obtain ⟨rejection, after, rejected⟩ := rejects ⟨[], ⟨∅, ∅, ∅⟩, []⟩
    have reached := rejected fun _ world => (.ok (.udp 0 ⟨.v4 0, 0⟩), world)
    simp [Enforce.call, targeted, chosen, granted, enforced] at reached
  · intro denied world
    unfold Enforce.call
    cases targeted : request.target with
    | none => exact ⟨_, _, fun inner => rfl⟩
    | some target =>
      cases chosen : layer.policies.choose request with
      | error rejection => exact ⟨_, _, fun inner => rfl⟩
      | ok result =>
        obtain ⟨policies, orgId⟩ := result
        cases decided : policies.evaluate (requestContext request target) with
        | allow allowed =>
          exact absurd (decision_allow_iff.mpr ⟨target, policies, orgId, targeted, chosen, decided⟩) (denied allowed)
        | deny reason =>
          simp only [enforced, decided]
          exact ⟨_, _, fun inner => rfl⟩

/-- Dropping a pin, or keeping it, loses no allow. -/
theorem decision_relaxed {strict relaxed : HeaderMap} {allowed : Allowed}
    (application : { request with headers := relaxed }.application = { request with headers := strict }.application)
    (pin : { request with headers := relaxed }.requestedPolicy = none ∨
      { request with headers := relaxed }.requestedPolicy = { request with headers := strict }.requestedPolicy)
    (decided : layer.decision { request with headers := strict } = some (.allow allowed)) :
    layer.decision { request with headers := relaxed } = some (.allow allowed) := by
  obtain ⟨target, policies, orgId, targeted, chosen, granted⟩ := decision_allow_iff.mp decided
  refine decision_allow_iff.mpr ⟨target, policies, orgId, targeted, chosen, ?_⟩
  have same : requestContext { request with headers := relaxed } target =
      { requestContext { request with headers := strict } target with
        requestedPolicy := { request with headers := relaxed }.requestedPolicy } := by
    simp only [requestContext, application]
  rw [same]
  obtain ⟨policy, selected, pinned, evaluated, free⟩ := PolicySet.evaluate_allow_iff_select.mp granted
  refine PolicySet.evaluate_allow_iff_select.mpr ⟨policy, selected, ?_, evaluated, free⟩
  rcases pin with gone | kept
  · exact .inl gone
  · rw [kept]
    exact pinned

theorem get_insert {before after : HeaderMap} {name : String} {value : HeaderValue} (other : name ≠ policyHeader) :
    HeaderMap.get (before ++ (policyHeader, value) :: after) name = HeaderMap.get (before ++ after) name := by
  simp [HeaderMap.get, List.find?_append, beq_false_of_ne other.symm]

theorem application_insert {before after : HeaderMap} {value : HeaderValue} :
    { request with headers := before ++ (policyHeader, value) :: after }.application =
      { request with headers := before ++ after }.application := by
  have other : "x-masque-application" ≠ policyHeader := by decide
  simp only [TunnelRequest.application, get_insert other]

theorem application_appended {value : HeaderValue} :
    { request with headers := request.headers ++ [(policyHeader, value)] }.application = request.application := by
  rw [application_insert, List.append_nil]

theorem pins_insert {before after : HeaderMap} {value : HeaderValue} :
    HeaderMap.pins (before ++ (policyHeader, value) :: after) =
      HeaderMap.pins before ++ value :: HeaderMap.pins after := by
  simp [HeaderMap.pins]

theorem pins_append (before after : HeaderMap) :
    HeaderMap.pins (before ++ after) = HeaderMap.pins before ++ HeaderMap.pins after := by
  simp [HeaderMap.pins]

theorem requestedPolicy_of_first {first : HeaderValue} {text : String}
    (head : (HeaderMap.pins request.headers).head? = some first) (read : HeaderValue.toStr first = some text)
    (nonempty : first ≠ []) : request.requestedPolicy = some text := by
  have filled : Text.isEmpty text = false := by
    obtain ⟨-, rfl⟩ := toStr_eq_some_iff.mp read
    simp [Text.isEmpty, nonempty]
  simp [requestedPolicy_eq, head, read, filled]

theorem requestedPolicy_of_no_text
    (silent : ∀ first, (HeaderMap.pins request.headers).head? = some first → first = [] ∨ HeaderValue.toStr first = none) :
    request.requestedPolicy = none := by
  rw [requestedPolicy_eq]
  cases head : (HeaderMap.pins request.headers).head? with
  | none => rfl
  | some first =>
    rcases silent first head with rfl | unread
    · rfl
    · simp [unread]

/-- Where the values agree, a pin that misnames the policy denies. -/
theorem not_allowed_of_mispinned {allowed : Allowed} (agree : PinsAgree (HeaderMap.pins request.headers))
    (mispinned : Mispinned layer request) : layer.decision request ≠ some (.allow allowed) := by
  intro decided
  obtain ⟨value, member, nonempty, misnames⟩ := mispinned
  obtain ⟨target, policies, orgId, targeted, chosen, granted⟩ := decision_allow_iff.mp decided
  obtain ⟨policy, selected, pinned, -, -⟩ := PolicySet.evaluate_allow_iff_select.mp granted
  cases pins : HeaderMap.pins request.headers with
  | nil => simp [pins] at member
  | cons first rest =>
    rw [pins] at agree member
    obtain ⟨readable, repeats⟩ := agree
    obtain ⟨text, read⟩ := Option.isSome_iff_exists.mp readable
    obtain rfl : value = first := by
      rcases List.mem_cons.mp member with same | later
      · exact same
      · exact (repeats value later).resolve_left nonempty
    have pin := requestedPolicy_of_first (by rw [pins]; rfl) read nonempty
    have named : policy.name = text := by simpa [requestContext, pin, eq_comm] using pinned
    apply misnames policy
    · simp only [Enforce.selected, chosen]
      exact selected
    · rw [named, nameBytes_toStr read]

/-- Where the values agree, taking one away relaxes the pin or keeps it. -/
theorem requestedPolicy_removed {before after : HeaderMap} {value : HeaderValue}
    (agree : PinsAgree (HeaderMap.pins (before ++ (policyHeader, value) :: after))) :
    { request with headers := before ++ after }.requestedPolicy = none ∨
      { request with headers := before ++ after }.requestedPolicy =
        { request with headers := before ++ (policyHeader, value) :: after }.requestedPolicy := by
  rw [requestedPolicy_eq, requestedPolicy_eq { request with headers := before ++ (policyHeader, value) :: after }]
  cases left : HeaderMap.pins (before ++ after) with
  | nil => exact .inl rfl
  | cons head tail =>
    have member : head ∈ HeaderMap.pins (before ++ (policyHeader, value) :: after) := by
      have kept : head ∈ HeaderMap.pins (before ++ after) := by simp [left]
      rw [pins_append] at kept
      rw [pins_insert]
      rcases List.mem_append.mp kept with early | late
      · exact List.mem_append_left _ early
      · exact List.mem_append_right _ (List.mem_cons_of_mem _ late)
    cases pins : HeaderMap.pins (before ++ (policyHeader, value) :: after) with
    | nil => simp [pins] at member
    | cons first rest =>
      rw [pins] at agree member
      rcases List.mem_cons.mp member with same | later
      · exact .inr (by rw [same]; rfl)
      · rcases agree.2 head later with empty | same
        · exact .inl (by rw [empty]; rfl)
        · exact .inr (by rw [same]; rfl)

/-- A value after all others changes a pin only where there was none. -/
theorem requestedPolicy_appended {value : HeaderValue} :
    request.requestedPolicy = none ∨
      request.requestedPolicy =
        { request with headers := request.headers ++ [(policyHeader, value)] }.requestedPolicy := by
  rw [requestedPolicy_eq, requestedPolicy_eq { request with headers := request.headers ++ [(policyHeader, value)] },
    pins_append]
  cases HeaderMap.pins request.headers with
  | nil => exact .inl rfl
  | cons first rest => exact .inr rfl

end

/-! ## When a pin always narrows -/

/-- A gateway with one policy, of this name, that allows everything. -/
def openGateway (name : String) : Enforce := ⟨.single ⟨[openPolicy name [openRule .allow .any]]⟩, .enforce, true⟩

def plainRequest (headers : HeaderMap) : TunnelRequest where
  protocol := .connectTcp
  destination := .tcp ⟨.name "db.internal", 5432⟩
  client := ⟨.v4 0x7f000001, 40000⟩
  headers := headers
  extensions := {}
  authorized := none

theorem openGateway_allows (name : String) {headers : HeaderMap}
    (pinned : (plainRequest headers).requestedPolicy = none ∨ (plainRequest headers).requestedPolicy = some name) :
    ∃ allowed, (openGateway name).decision (plainRequest headers) = some (.allow allowed) := by
  let ctx := requestContext (plainRequest headers) ⟨.name "db.internal", 5432⟩
  have first : FirstApplying (openPolicy name [openRule .allow .any]).rules ctx 0 (openRule .allow .any) :=
    ⟨rfl, by rw [openRule_applies]; rfl, by simp⟩
  have granted := (evaluate_openPolicy pinned).trans (Policy.evaluate_of_first first)
  exact ⟨_, decision_allow_iff.mpr ⟨_, _, _, rfl, rfl, granted⟩⟩

theorem exists_other_name (value : HeaderValue) : ∃ name, value ≠ nameBytes name := by
  by_cases same : value = nameBytes "a"
  · refine ⟨"b", ?_⟩
    rw [same]
    decide
  · exact ⟨"a", same⟩

/-- Values that do not agree have one that some gateway lets pass, although it misnames the policy. -/
theorem exists_mispinned_allowed {headers : HeaderMap} (disagree : ¬ PinsAgree (HeaderMap.pins headers)) :
    ∃ name allowed, Mispinned (openGateway name) (plainRequest headers) ∧
      (openGateway name).decision (plainRequest headers) = some (.allow allowed) := by
  have misnamed {name : String} {value : HeaderValue} (member : value ∈ HeaderMap.pins headers)
      (nonempty : value ≠ []) (other : value ≠ nameBytes name) :
      Mispinned (openGateway name) (plainRequest headers) := by
    refine ⟨value, member, nonempty, fun policy selected => ?_⟩
    cases selected
    exact other
  -- No pin is read: a value that is there and misnames some policy is enough.
  have unread {value : HeaderValue} (member : value ∈ HeaderMap.pins headers) (nonempty : value ≠ [])
      (silent : (plainRequest headers).requestedPolicy = none) :
      ∃ name allowed, Mispinned (openGateway name) (plainRequest headers) ∧
        (openGateway name).decision (plainRequest headers) = some (.allow allowed) := by
    obtain ⟨name, other⟩ := exists_other_name value
    obtain ⟨allowed, decided⟩ := openGateway_allows name (.inl silent)
    exact ⟨name, allowed, misnamed member nonempty other, decided⟩
  cases pins : HeaderMap.pins headers with
  | nil => simp [pins, PinsAgree] at disagree
  | cons first rest =>
    have head : (HeaderMap.pins headers).head? = some first := by rw [pins]; rfl
    have silentOf (silent : first = [] ∨ HeaderValue.toStr first = none) :
        (plainRequest headers).requestedPolicy = none := by
      apply requestedPolicy_of_no_text
      intro other found
      cases head.symm.trans found
      exact silent
    cases read : HeaderValue.toStr first with
    | none =>
      have nonempty : first ≠ [] := by
        rintro rfl
        cases read
      exact unread (by simp [pins]) nonempty (silentOf (.inr read))
    | some text =>
      simp only [pins, PinsAgree, read, Option.isSome_some, true_and, not_forall, not_or] at disagree
      obtain ⟨value, later, nonempty, differs⟩ := disagree
      have member : value ∈ HeaderMap.pins headers := by simp [pins, later]
      by_cases empty : first = []
      · exact unread member nonempty (silentOf (.inl empty))
      · -- The first value is the policy's name, and the later one is not looked at.
        have pin : (plainRequest headers).requestedPolicy = some text := requestedPolicy_of_first head read empty
        obtain ⟨allowed, decided⟩ := openGateway_allows text (.inr pin)
        exact ⟨text, allowed, misnamed member nonempty (by rwa [nameBytes_toStr read]), decided⟩

/-- A pin that misnames the selected policy is rejected and no added header widens access, for every request with
these headers, exactly when the pins agree. A header that comes after all others never widens access. -/
theorem pin_narrows_iff (headers : HeaderMap) :
    (((∀ (layer : Enforce) (request : TunnelRequest), layer.mode = .enforce → request.headers = headers →
          Mispinned layer request → Rejects layer.call request) ∧
        ∀ (layer : Enforce) (request : TunnelRequest) (before after : HeaderMap) (value : HeaderValue),
          layer.mode = .enforce → headers = before ++ (policyHeader, value) :: after →
          Rejects layer.call { request with headers := before ++ after } →
          Rejects layer.call { request with headers := headers }) ↔
      PinsAgree (HeaderMap.pins headers)) ∧
    ∀ (layer : Enforce) (request : TunnelRequest) (value : HeaderValue), layer.mode = .enforce →
      Rejects layer.call request →
      Rejects layer.call { request with headers := request.headers ++ [(policyHeader, value)] } := by
  refine ⟨⟨?_, ?_⟩, ?_⟩
  · rintro ⟨rejected, -⟩
    by_contra disagree
    obtain ⟨name, allowed, mispinned, decided⟩ := exists_mispinned_allowed disagree
    exact (rejects_iff rfl).mp (rejected (openGateway name) _ rfl rfl mispinned) allowed decided
  · intro agree
    constructor
    · intro layer request enforced same mispinned
      rw [rejects_iff enforced]
      intro allowed
      exact not_allowed_of_mispinned (by rwa [same]) mispinned
    · intro layer request before after value enforced split denied
      rw [rejects_iff enforced] at denied ⊢
      subst split
      intro allowed decided
      exact denied allowed (decision_relaxed application_insert.symm (requestedPolicy_removed agree) decided)
  · intro layer request value enforced denied
    rw [rejects_iff enforced] at denied ⊢
    intro allowed decided
    exact denied allowed (decision_relaxed application_appended.symm requestedPolicy_appended decided)

-- A pin in Latin-1, which is no text to the layer and so no pin.
def latinPin : HeaderValue := [0x73, 0x74, 0x61, 0x67, 0xe9]

theorem unreadable_pin_is_ignored :
    Mispinned (openGateway "production") (plainRequest [(policyHeader, latinPin)]) ∧
      ¬ Rejects (openGateway "production").call (plainRequest [(policyHeader, latinPin)]) := by
  constructor
  · refine ⟨latinPin, by decide, by decide, fun policy selected => ?_⟩
    cases selected
    decide
  · have unread : (plainRequest [(policyHeader, latinPin)]).requestedPolicy = none := by decide
    obtain ⟨allowed, decided⟩ := openGateway_allows "production" (.inl unread)
    rw [rejects_iff rfl]
    exact fun denied => denied allowed decided

end Skimasque.Gateway
