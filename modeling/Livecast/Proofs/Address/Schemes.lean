import Livecast.Proofs.Address.Streams
import Livecast.WebSocket.Address

/-!
# The schemes of session addresses

A base is accepted by its scheme, and then the slashes at its end are taken off.  The scheme ends
with two slashes itself.  So a base that names nothing behind its scheme loses them, and the address
that is made of it has no scheme; every other base keeps its scheme.

## Main Definitions

* `StreamScheme` - the schemes of WebSocket addresses, and `StreamScheme.Begins`, the texts that
  have one

## Main Statements

* `isWebSocketBase_iff` - a base is accepted if it has a scheme
* `streamUrl_scheme` - whether an address has a scheme, and which
* `streamUrl_without_scheme` - an address that has none
-/

namespace Livecast

open Livecast.Text

/-- The schemes of WebSocket addresses. -/
inductive StreamScheme where
  /-- A stream as it is. -/
  | plain
  /-- A stream that is encrypted. -/
  | encrypted
deriving DecidableEq

namespace StreamScheme

/-- The name of a scheme and the colon behind it. -/
def stem : StreamScheme → List Char
  | plain => ['w', 's', ':']
  | encrypted => ['w', 's', 's', ':']

/-- How an address of a scheme begins. -/
def chars (scheme : StreamScheme) : List Char := scheme.stem ++ ['/', '/']

/-- A text begins like an address of a scheme. -/
def Begins (scheme : StreamScheme) (t : String) : Prop := scheme.chars <+: t.toList

instance (scheme : StreamScheme) (t : String) : Decidable (scheme.Begins t) :=
  inferInstanceAs (Decidable (_ <+: _))

/-- Behind its stem a text tells its scheme. -/
theorem stem_inj {scheme scheme' : StreamScheme} {rest rest' : List Char}
    (same : scheme.stem ++ rest = scheme'.stem ++ rest') : scheme = scheme' ∧ rest = rest' := by
  cases scheme <;> cases scheme' <;> simp [stem] at same ⊢
  · exact same
  · exact same

/-- No text begins like addresses of two schemes. -/
theorem Begins.unique {scheme scheme' : StreamScheme} {t : String} (h : scheme.Begins t)
    (h' : scheme'.Begins t) : scheme = scheme' := by
  obtain ⟨rest, same⟩ := h
  obtain ⟨rest', same'⟩ := h'
  rw [← same', chars, chars, List.append_assoc, List.append_assoc] at same
  exact (stem_inj same).1

/-- With a single slash behind its stem a text does not begin like an address. -/
theorem not_begins (scheme scheme' : StreamScheme) {c : Char} (hc : c ≠ '/') {t : String}
    {rest : List Char} (whole : t.toList = scheme.stem ++ '/' :: c :: rest) :
    ¬scheme'.Begins t := by
  rintro ⟨rest', same⟩
  rw [whole, chars, List.append_assoc] at same
  obtain ⟨-, slashes⟩ := stem_inj same
  exact hc (List.cons.inj (List.cons.inj slashes).2).1.symm

end StreamScheme

/-- **A base is accepted if it has a scheme.** -/
theorem isWebSocketBase_iff {base : String} :
    isWebSocketBase base = true ↔ ∃ scheme : StreamScheme, scheme.Begins base := by
  rw [isWebSocketBase, Bool.or_eq_true, List.isPrefixOf_iff_prefix, List.isPrefixOf_iff_prefix]
  constructor
  · rintro (plain | encrypted)
    · exact ⟨.plain, plain⟩
    · exact ⟨.encrypted, encrypted⟩
  · rintro ⟨scheme, begins⟩
    cases scheme with
    | plain => exact .inl begins
    | encrypted => exact .inr begins

section

variable {base : String} {scheme : StreamScheme} {rest : List Char}

/-- A base that names something behind its scheme keeps the scheme. -/
theorem begins_trimBase (whole : base.toList = scheme.chars ++ rest)
    (host : ∃ c ∈ rest, c ≠ '/') : scheme.Begins (trimBase base) := by
  have kept : (trimBase base).toList = scheme.chars ++ dropEndWhile (· = '/') rest := by
    rw [trimBase, String.toList_ofList, whole]
    exact dropEndWhile_append_of_exists _ (by simpa using host)
  exact ⟨_, kept.symm⟩

/-- Only the stem is left of a base that names nothing behind its scheme. -/
theorem trimBase_of_slashes (whole : base.toList = scheme.chars ++ rest)
    (slashes : ∀ c ∈ rest, c = '/') : (trimBase base).toList = scheme.stem := by
  have all : ∀ c ∈ ['/', '/'] ++ rest, decide (c = '/') = true := by
    intro c hc
    rcases List.mem_append.mp hc with hc | hc
    · simpa using hc
    · exact decide_eq_true (slashes c hc)
  have stem : dropEndWhile (· = '/') scheme.stem = scheme.stem := by
    cases scheme <;> decide
  rw [trimBase, String.toList_ofList, whole, StreamScheme.chars, List.append_assoc,
    dropEndWhile_append_of_all _ all, stem]

end

/-- A channel that is named begins its segment with something else than a slash. -/
theorem exists_head_percentEncode {channel : String} (named : channel ≠ "") :
    ∃ c more, (percentEncode channel).toList = c :: more ∧ c ≠ '/' := by
  obtain ⟨c, more, first⟩ : ∃ c more, (percentEncode channel).toList = c :: more :=
    List.exists_cons_of_ne_nil (by simpa using percentEncode_ne_empty named)
  have plain := slashless_percentEncode channel c (by rw [first]; exact List.mem_cons_self)
  exact ⟨c, more, first, of_decide_eq_false plain⟩

/-- **Whether an address has a scheme, and which.**  It has the scheme of its base if the base names
anything but slashes behind it, and else it has none. -/
theorem streamUrl_scheme {base channel key url : String} {role : Role}
    (given : streamUrl base channel key role = .ok url) :
    ∃ (scheme : StreamScheme) (rest : List Char), base.toList = scheme.chars ++ rest ∧
      ∀ scheme' : StreamScheme, scheme'.Begins url ↔ scheme' = scheme ∧ ∃ c ∈ rest, c ≠ '/' := by
  obtain ⟨accepted, named, -, rfl⟩ := streamUrl_eq_ok_iff.mp given
  obtain ⟨scheme, rest, whole⟩ := isWebSocketBase_iff.mp accepted
  refine ⟨scheme, rest, whole.symm, fun scheme' => ?_⟩
  by_cases host : ∃ c ∈ rest, c ≠ '/'
  · have begins : scheme.Begins (trimBase base ++ pathOf
        (SessionIdentity.segments ⟨channel, key, role⟩)) := by
      rw [StreamScheme.Begins, String.toList_append]
      exact (begins_trimBase whole.symm host).trans (List.prefix_append _ _)
    constructor
    · exact fun begins' => ⟨begins'.unique begins, host⟩
    · rintro ⟨rfl, -⟩
      exact begins
  · -- the first segment follows the stem behind a single slash
    have left : (trimBase base).toList = scheme.stem :=
      trimBase_of_slashes whole.symm (by simpa using host)
    obtain ⟨c, more, first, unslashed⟩ := exists_head_percentEncode named
    have url_eq : (trimBase base ++ pathOf
        (SessionIdentity.segments ⟨channel, key, role⟩)).toList = scheme.stem ++
          '/' :: c :: (more ++ (pathOf [percentEncode key, role.urlSegment]).toList) := by
      simp [left, SessionIdentity.segments, pathOf, first]
    have schemeless := StreamScheme.not_begins scheme scheme' unslashed url_eq
    exact ⟨fun begins => absurd begins schemeless, fun same => absurd same.2 host⟩

/-- The slashes behind a scheme do not matter as long as something else follows them. -/
theorem streamUrl_scheme_far_host :
    streamUrl "wss:////a//" "c" "k" .watch = .ok "wss:////a/c/k/receive" ∧
      ∀ scheme : StreamScheme, scheme.Begins "wss:////a/c/k/receive" ↔ scheme = .encrypted := by
  have given : streamUrl "wss:////a//" "c" "k" .watch = .ok "wss:////a/c/k/receive" := by decide
  obtain ⟨scheme, rest, -, begins⟩ := streamUrl_scheme given
  obtain ⟨rfl, host⟩ := (begins .encrypted).mp (by decide)
  exact ⟨given, fun scheme' => (begins scheme').trans (and_iff_left host)⟩

/-- A base of nothing but a scheme is accepted, and what is made of it has no scheme; nobody can
connect to it. -/
theorem streamUrl_without_scheme :
    streamUrl "ws://" "c" "k" .publish = .ok "ws:/c/k/publish" ∧
      (∀ scheme : StreamScheme, ¬scheme.Begins "ws:/c/k/publish") ∧
      WebSocketAddress.parse "ws:/c/k/publish" = .error .invalidFormat := by
  refine ⟨by decide, fun scheme => ?_, by decide⟩
  cases scheme <;> decide

end Livecast
