import TorrentSearch.Proofs.Search.Alone
import TorrentSearch.Source.Basic
import TorrentSearch.Source.Client

/-!
# Requests of a check by itself

What a check by itself asks servers for is a list of URLs. Those that reach a server are recorded.
-/

namespace TorrentSearch

open Search (Shared)
open Search.Work (Alone)

/-- Those of some URLs, requested one after another, that reach a server. -/
def Http.Network.reached (n : Http.Network) (earlier : List String) : List String → List String
  | [] => []
  | url :: urls =>
    if (n.deliver earlier url).isSome then url :: reached n (url :: earlier) urls
    else reached n earlier urls

theorem Http.Network.reached_append (n : Http.Network) (earlier first second : List String) :
    n.reached earlier (first ++ second) =
      n.reached earlier first ++ n.reached ((n.reached earlier first).reverse ++ earlier) second := by
  induction first generalizing earlier with
  | nil => rfl
  | cons url first ih =>
    simp only [List.cons_append, Http.Network.reached]
    split
    · rw [ih]
      simp
    · exact ih earlier

/-- Between two states servers were asked for URLs, one after another, and the cache stayed the same. -/
structure Search.Shared.Asks (urls : List String) (s t : Shared) : Prop where
  cache : t.cache = s.cache
  network : t.network = s.network
  requests : t.requests = (s.network.reached s.requests urls).reverse ++ s.requests

namespace Search.Shared.Asks

variable {s t u : Shared} {urls : List String}

theorem refl (s : Shared) : Asks [] s s := ⟨rfl, rfl, rfl⟩

theorem trans (h : Asks urls s t) {more : List String} (h' : Asks more t u) :
    Asks (urls ++ more) s u := by
  refine ⟨h'.cache.trans h.cache, h'.network.trans h.network, ?_⟩
  rw [h'.requests, h.network, h.requests, Http.Network.reached_append, List.reverse_append,
    List.append_assoc]

theorem of_meanwhile (h : s.Meanwhile t) : Asks [] s t :=
  ⟨h.cache_eq, h.network_eq, h.requests_eq⟩

theorem count (f : Counters → Counters) (s : Shared) : Asks [] s (s.count f) := ⟨rfl, rfl, rfl⟩

theorem request (url : String) (timeout : Nat) (s : Shared) :
    Asks [url] s (s.request url timeout).2 := by
  unfold Shared.request
  split
  · rename_i d hdeliver
    exact ⟨rfl, rfl, by simp [Http.Network.reached, hdeliver]⟩
  · rename_i hdeliver
    exact ⟨rfl, rfl, by simp [Http.Network.reached, hdeliver]⟩

end Search.Shared.Asks

theorem Search.Shared.network_store (id source : String) (results : List Torrent) (s : Shared) :
    (s.store id source results).network = s.network := by
  rw [Shared.store]

theorem Search.Shared.requests_store (id source : String) (results : List Torrent) (s : Shared) :
    (s.store id source results).requests = s.requests := by
  rw [Shared.store]

/-- What becomes of a request depends only on the network and on the earlier requests. -/
theorem Search.Shared.request_congr {s t : Shared} (hnetwork : t.network = s.network)
    (hrequests : t.requests = s.requests) (url : String) (timeout : Nat) :
    (t.request url timeout).1 = (s.request url timeout).1 := by
  unfold Shared.request
  rw [hnetwork, hrequests]
  split <;> rfl

namespace Source

/-- The URL that is requested for a text, if there is one. -/
def requested? (url : String) : Option String :=
  match Url.ofText url with
  | .error _ => none
  | .ok u =>
    let u := withoutUser u
    if isRequestable u then some (String.ofList u.renderRequest) else none

/-- A request reaches at most one server, and the reply is what the server sends. -/
theorem alone_get {url : String} {timeout : Nat} {s t : Shared}
    {reply : Except Error Http.Response} (h : Alone (get url timeout) s reply t) :
    s.Asks (requested? url).toList t ∧
      ((requested? url = none ∧ ∃ e, reply = .error e) ∨
        ∃ u shown, requested? url = some u ∧
          reply = received url shown (s.request u timeout).1.2) := by
  unfold get at h
  unfold requested?
  cases hurl : Url.ofText url with
  | error e =>
    rw [hurl] at h
    cases h
    exact ⟨.refl s, .inl ⟨rfl, _, rfl⟩⟩
  | ok u =>
    rw [hurl] at h
    dsimp only at h ⊢
    by_cases hok : isRequestable (withoutUser u) = true
    · rw [if_pos hok] at h ⊢
      cases h with
      | request hs hdone =>
        cases hdone
        exact ⟨(Shared.Asks.request _ _ s).trans (.of_meanwhile hs), .inr ⟨_, _, rfl, rfl⟩⟩
    · rw [if_neg hok] at h ⊢
      cases h
      exact ⟨.refl s, .inl ⟨rfl, _, rfl⟩⟩

theorem alone_cached {id name : String} {maxAge : Time.Span} {s t : Shared}
    {found : Option (List Torrent)} (h : Alone (cached id name maxAge) s found t) :
    found = (s.cache.lookupResults id name maxAge s.now).1.hit? ∧
      t.cache = (s.cache.lookupResults id name maxAge s.now).2 ∧ t.network = s.network ∧
      t.requests = s.requests := by
  obtain ⟨looked, u, hlook, hpure⟩ := h.of_bind
  obtain ⟨rfl, rfl⟩ := hlook.of_consult
  obtain ⟨rfl, rfl⟩ := hpure.of_pure
  exact ⟨rfl, rfl, rfl, rfl⟩

end Source

end TorrentSearch
