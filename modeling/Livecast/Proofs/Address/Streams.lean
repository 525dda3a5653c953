import Livecast.Proofs.Address.Segments

/-!
# Addresses of sessions cannot be confused

A channel and a key are arbitrary texts, and both become part of one address.  Encoding leaves none
of the characters in them that structure an address, and it loses nothing; so from the address alone
one can tell the session that it is for, and the server.

## Main Definitions

* `SessionIdentity.ofSegments?` - the session that three segments are for
* `StreamAddress` - how the address of a session is put together

## Main Statements

* `streamAddress_of_streamUrl` - every address that is given is put together that way
* `streamUrl_unmistakable` - whatever channel, key and role are given, there is an address, and it
  is the address of no other session
-/

namespace Livecast

open Livecast.Text

/-- The role that a suffix selects. -/
def Role.ofSegment? (s : String) : Option Role :=
  [Role.publish, Role.watch].find? (·.urlSegment = s)

theorem Role.ofSegment?_urlSegment (role : Role) : ofSegment? role.urlSegment = some role := by
  cases role <;> decide

theorem Role.isSegment_urlSegment (role : Role) : IsSegment role.urlSegment := by
  have plain : role.urlSegment.toList.all (!isSpecial ·) = true := by cases role <;> decide
  refine ⟨by cases role <;> decide, fun c hc => ?_⟩
  simpa using List.all_eq_true.mp plain c hc

/-- The session that three segments are for: they are the encoded channel, the encoded key and the
suffix of the role. -/
def SessionIdentity.ofSegments? : List String → Option SessionIdentity
  | [channel, key, suffix] => do
    return ⟨← component? channel, ← component? key, ← Role.ofSegment? suffix⟩
  | _ => none

/-- How the address of a session is put together: it is the base without the slashes at its end,
followed by three segments that say which session it is. -/
structure StreamAddress (base url : String) (session : SessionIdentity) (front : String)
    (segments : List String) : Prop where
  /-- The front is the base up to the slashes at its end. -/
  base_eq : ∃ slashes : String, base = front ++ slashes ∧ ∀ c ∈ slashes.toList, c = '/'
  /-- There is no slash left at its end. -/
  trimmed : front.toList.getLast? ≠ some '/'
  /-- The segments follow it. -/
  url_eq : url = front ++ pathOf segments
  /-- They are three. -/
  three : segments.length = 3
  /-- Each is one segment, and ends neither the path nor the line. -/
  isSegment : ∀ s ∈ segments, IsSegment s
  /-- They say which session the address is for. -/
  session_eq : SessionIdentity.ofSegments? segments = some session

/-- The segments of the address of a session. -/
def SessionIdentity.segments (session : SessionIdentity) : List String :=
  [percentEncode session.channel, percentEncode session.key, session.role.urlSegment]

namespace SessionIdentity

theorem ofSegments?_segments (session : SessionIdentity) :
    ofSegments? session.segments = some session := by
  simp only [segments, ofSegments?, component?_percentEncode, Role.ofSegment?_urlSegment,
    Option.bind_eq_bind, Option.bind_some, Option.pure_def]

theorem isSegment_segments {session : SessionIdentity} (named : session.channel ≠ "")
    (keyed : session.key ≠ "") : ∀ s ∈ session.segments, IsSegment s := by
  simp only [segments, List.forall_mem_cons, List.not_mem_nil, false_implies, implies_true,
    and_true]
  exact ⟨isSegment_percentEncode named, isSegment_percentEncode keyed,
    session.role.isSegment_urlSegment⟩

end SessionIdentity

/-- **When there is an address, and which**: the base must be that of a WebSocket server, and
neither the channel nor the key may be empty. -/
theorem streamUrl_eq_ok_iff {base channel key url : String} {role : Role} :
    streamUrl base channel key role = .ok url ↔
      isWebSocketBase base = true ∧ channel ≠ "" ∧ key ≠ "" ∧
        url = trimBase base ++ pathOf (SessionIdentity.segments ⟨channel, key, role⟩) := by
  have path : trimBase base ++ "/" ++ percentEncode channel ++ "/" ++ percentEncode key ++ "/" ++
        role.urlSegment =
      trimBase base ++ pathOf (SessionIdentity.segments ⟨channel, key, role⟩) := by
    simp only [SessionIdentity.segments, pathOf, String.append_empty, String.append_assoc]
  rw [streamUrl, path]
  by_cases accepted : isWebSocketBase base = true
  · by_cases unnamed : channel = ""
    · subst unnamed
      simp [accepted]
    · by_cases keyless : key = ""
      · subst keyless
        simp [accepted, unnamed]
      · simpa [accepted, unnamed, keyless] using eq_comm
  · simp [accepted]

/-- **Every address that is given is put together from the base and three segments.** -/
theorem streamAddress_of_streamUrl {base channel key url : String} {role : Role}
    (h : streamUrl base channel key role = .ok url) :
    StreamAddress base url ⟨channel, key, role⟩ (trimBase base)
      (SessionIdentity.segments ⟨channel, key, role⟩) := by
  obtain ⟨-, named, keyed, rfl⟩ := streamUrl_eq_ok_iff.mp h
  obtain ⟨base_eq, trimmed⟩ := trimBase_eq base
  exact
    { base_eq := base_eq
      trimmed := trimmed
      url_eq := rfl
      three := rfl
      isSegment := SessionIdentity.isSegment_segments named keyed
      session_eq := SessionIdentity.ofSegments?_segments _ }

/-- Two ways to put an address together have the same front and are for the same session. -/
theorem StreamAddress.unique {base base' url front front' : String}
    {session session' : SessionIdentity} {segments segments' : List String}
    (h : StreamAddress base url session front segments)
    (h' : StreamAddress base' url session' front' segments') :
    front = front' ∧ session = session' := by
  obtain ⟨fronts, rfl⟩ := pathOf_inj (fun s hs => (h.isSegment s hs).slashless)
    (fun s hs => (h'.isSegment s hs).slashless) (h.three.trans h'.three.symm)
    (h.url_eq.symm.trans h'.url_eq)
  exact ⟨fronts, Option.some.inj (h.session_eq.symm.trans h'.session_eq)⟩

/-- **Addresses of sessions cannot be confused.**  For every base of a WebSocket server and every
channel and key that are not empty there is an address.  It is the base without the slashes at its
end and three more segments, from which channel, key and role can be read.  Wherever the same
address is given, channel, key and role are the same, and so is the base up to slashes at its
end. -/
theorem streamUrl_unmistakable {base channel key : String} (role : Role)
    (accepted : isWebSocketBase base = true) (named : channel ≠ "") (keyed : key ≠ "") :
    ∃ url segments, streamUrl base channel key role = .ok url ∧
      StreamAddress base url ⟨channel, key, role⟩ (trimBase base) segments ∧
      ∀ base' channel' key' role', streamUrl base' channel' key' role' = .ok url →
        trimBase base' = trimBase base ∧ channel' = channel ∧ key' = key ∧ role' = role := by
  have given : streamUrl base channel key role = .ok _ :=
    streamUrl_eq_ok_iff.mpr ⟨accepted, named, keyed, rfl⟩
  have address := streamAddress_of_streamUrl given
  refine ⟨_, _, given, address, fun base' channel' key' role' again => ?_⟩
  obtain ⟨fronts, sessions⟩ := (streamAddress_of_streamUrl again).unique address
  obtain ⟨rfl, rfl, rfl⟩ := SessionIdentity.mk.inj sessions
  exact ⟨fronts, rfl, rfl, rfl⟩

/-- A base of nothing but a scheme and slashes, and texts that look like more of the address. -/
theorem streamUrl_unmistakable_slashes :
    isWebSocketBase "ws:///" = true ∧ "a/k?#" ≠ "" ∧ "%2F" ≠ "" ∧
      streamUrl "ws:///" "a/k?#" "%2F" .watch = .ok "ws:/a%2Fk%3F%23/%252F/receive" ∧
      ∀ channel key role,
        streamUrl "ws:///" channel key role = .ok "ws:/a%2Fk%3F%23/%252F/receive" →
          channel = "a/k?#" ∧ key = "%2F" ∧ role = .watch := by
  have accepted : isWebSocketBase "ws:///" = true := by decide
  have named : "a/k?#" ≠ "" := by decide
  have keyed : "%2F" ≠ "" := by decide
  have given : streamUrl "ws:///" "a/k?#" "%2F" .watch = .ok "ws:/a%2Fk%3F%23/%252F/receive" := by
    decide
  obtain ⟨url, segments, same, -, unique⟩ := streamUrl_unmistakable .watch accepted named keyed
  obtain rfl := Except.ok.inj (given.symm.trans same)
  exact ⟨accepted, named, keyed, given, fun channel key role again =>
    (unique "ws:///" channel key role again).2⟩

end Livecast
