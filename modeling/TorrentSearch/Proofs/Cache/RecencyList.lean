import TorrentSearch.Cache.Error
import TorrentSearch.Proofs.Cache.Accounting

/-!
# The store as a recency list

A plain list of pairs, the latest used first, that knows neither a count of bytes nor an eviction one
by one, answers every sequence of calls as the store does.
-/

namespace TorrentSearch.Cache

open Cbor (Bytes)
open Store (entryLength totalLength longestWithin)

inductive Call where
  | get (key : Bytes)
  | contains (key : Bytes)
  /-- A value goes in the regular way, if it is short enough. -/
  | set (key value : Bytes)
  | setBig (key value : Bytes)
  | remove (key : Bytes)
  | clear
  | len
  | stats
deriving DecidableEq, Repr

inductive Reply where
  | done
  | value (found : Option Bytes)
  | flag (b : Bool)
  | refused (e : Error)
  | count (n : Nat)
  | stats (entries bytesUsed maxBytes : Nat)
deriving DecidableEq, Repr

/-- The replies to calls, one after another, and the state they leave. -/
def replies {σ : Type} (answer : Call → σ → Reply × σ) : List Call → σ → List Reply × σ
  | [], s => ([], s)
  | call :: calls, s =>
    let (reply, s) := answer call s
    let (rest, s) := replies answer calls s
    (reply :: rest, s)

/-- A value that is too long for the regular way. -/
def tooLong (value : Bytes) : Reply :=
  .refused (.valueTooLarge value.length maxRegularLength)

def Store.answer (call : Call) (s : Store) : Reply × Store :=
  match call with
  | .get key => (.value (s.get key).1, (s.get key).2)
  | .contains key => (.flag (s.contains key), s)
  | .set key value =>
    match s.putRegular? key value with
    | some s => (.done, s)
    | none => (tooLong value, s)
  | .setBig key value => (.done, s.put key value)
  | .remove key => (.flag (s.remove key).1, (s.remove key).2)
  | .clear => (.done, s.clear)
  | .len => (.count s.size, s)
  | .stats => (.stats s.size s.bytesUsed s.maxBytes, s)

abbrev RecencyList := List (Bytes × Bytes)

namespace RecencyList

def pair? (l : RecencyList) (key : Bytes) : Option (Bytes × Bytes) :=
  l.find? fun p => p.1 = key

def others (l : RecencyList) (key : Bytes) : RecencyList :=
  l.eraseP fun p => p.1 = key

/-- A pair in front, in place of an earlier one of its key, and as much behind it as fits. -/
def insert (budget : Nat) (l : RecencyList) (key value : Bytes) : RecencyList :=
  longestWithin budget ((key, value) :: l.others key)

def answer (budget : Nat) (call : Call) (l : RecencyList) : Reply × RecencyList :=
  match call with
  | .get key =>
    match l.pair? key with
    | some p => (.value (some p.2), p :: l.others key)
    | none => (.value none, l)
  | .contains key => (.flag (l.any fun p => p.1 = key), l)
  | .set key value =>
    if value.length ≤ maxRegularLength then (.done, l.insert budget key value)
    else (tooLong value, l)
  | .setBig key value => (.done, l.insert budget key value)
  | .remove key => (.flag (l.any fun p => p.1 = key), l.others key)
  | .clear => (.done, [])
  | .len => (.count l.length, l)
  | .stats => (.stats l.length (totalLength l) budget, l)

end RecencyList

namespace Store

theorem pair?_entries (s : Store) (key : Bytes) :
    RecencyList.pair? s.entries key = (s.find? key).map fun value => (key, value) := by
  unfold RecencyList.pair? find?
  induction s.entries with
  | nil => rfl
  | cons e es ih =>
    obtain ⟨k, v⟩ := e
    by_cases h : k = key
    · subst h
      simp
    · have hne : (key == k) = false := by simpa using Ne.symm h
      rw [List.lookup_cons, hne, List.find?_cons_of_neg (by simpa using h)]
      exact ih

theorem any_entries (s : Store) (key : Bytes) :
    (s.entries.any fun p => p.1 = key) = (s.find? key).isSome := by
  have hpair := congrArg Option.isSome (pair?_entries s key)
  rw [Option.isSome_map] at hpair
  rw [← hpair, RecencyList.pair?, Bool.eq_iff_iff, List.find?_isSome, List.any_eq_true]

/-- With distinct keys, the others are what is left when the first pair of a key goes. -/
theorem without_eq_others {es : RecencyList} (h : (es.map Prod.fst).Nodup) (key : Bytes) :
    without es key = es.others key := by
  induction es with
  | nil => rfl
  | cons e es ih =>
    rw [List.map_cons, List.nodup_cons] at h
    by_cases hkey : e.1 = key
    · subst hkey
      have hself := without_eq_self h.1
      simpa [without, RecencyList.others] using hself
    · have hrest := ih h.2
      simp only [without, RecencyList.others] at hrest ⊢
      simp [hkey, hrest]

/-- The store and the list agree on a call. -/
def Agrees (s : Store) (call : Call) : Prop :=
  (s.answer call).1 = (RecencyList.answer s.maxBytes call s.entries).1 ∧
    (s.answer call).2.entries = (RecencyList.answer s.maxBytes call s.entries).2

namespace Accurate

variable {s : Store}

theorem entries_put (h : s.Accurate) (key value : Bytes) :
    (s.put key value).entries = RecencyList.insert s.maxBytes s.entries key value := by
  rw [h.put_eq, RecencyList.insert, ← without_eq_others h.distinct]

theorem agrees_get (h : s.Accurate) (key : Bytes) : s.Agrees (.get key) := by
  simp only [Agrees, Store.answer, RecencyList.answer, Store.get, pair?_entries]
  cases s.find? key with
  | none => exact ⟨rfl, rfl⟩
  | some value =>
    refine ⟨rfl, ?_⟩
    rw [Option.map_some, without_eq_others h.distinct]

theorem agrees_set (h : s.Accurate) (key value : Bytes) : s.Agrees (.set key value) := by
  simp only [Agrees, Store.answer, RecencyList.answer, putRegular?]
  by_cases hlong : maxRegularLength < value.length
  · simp [hlong, Nat.not_le.mpr hlong]
  · simp [hlong, Nat.not_lt.mp hlong, h.entries_put]

theorem agrees_remove (h : s.Accurate) (key : Bytes) : s.Agrees (.remove key) := by
  simp only [Agrees, Store.answer, RecencyList.answer, Store.remove, any_entries]
  cases hfind : s.find? key with
  | none =>
    refine ⟨rfl, ?_⟩
    dsimp only
    rw [← without_eq_others h.distinct, without_of_find?_eq_none hfind]
  | some old => exact ⟨rfl, without_eq_others h.distinct key⟩

theorem agrees (h : s.Accurate) (call : Call) : s.Agrees call := by
  cases call with
  | get key => exact h.agrees_get key
  | contains key => exact ⟨congrArg Reply.flag (any_entries s key).symm, rfl⟩
  | set key value => exact h.agrees_set key value
  | setBig key value => exact ⟨rfl, h.entries_put key value⟩
  | remove key => exact h.agrees_remove key
  | clear => exact ⟨rfl, rfl⟩
  | len => exact ⟨rfl, rfl⟩
  | stats => exact ⟨congrArg (Reply.stats s.entries.length · s.maxBytes) h.used, rfl⟩

theorem answer (h : s.Accurate) (call : Call) :
    (s.answer call).2.Accurate ∧ (s.answer call).2.maxBytes = s.maxBytes := by
  cases call with
  | get key => exact ⟨h.get key, maxBytes_get s key⟩
  | set key value =>
    unfold Store.answer putRegular?
    by_cases hlong : maxRegularLength < value.length
    · simp [hlong, h]
    · simp [hlong, h.put, h.maxBytes_put]
  | setBig key value => exact ⟨h.put key value, h.maxBytes_put key value⟩
  | remove key => exact ⟨h.remove key, maxBytes_remove s key⟩
  | clear => exact ⟨.clear s, rfl⟩
  | contains | len | stats => exact ⟨h, rfl⟩

theorem replies_agree (h : s.Accurate) (calls : List Call) :
    let final := replies Store.answer calls s
    let expected := replies (RecencyList.answer s.maxBytes) calls s.entries
    final.1 = expected.1 ∧ final.2.entries = expected.2 ∧ final.2.Accurate := by
  induction calls generalizing s with
  | nil => exact ⟨rfl, rfl, h⟩
  | cons call calls ih =>
    obtain ⟨hreply, hentries⟩ := h.agrees call
    obtain ⟨haccurate, hbudget⟩ := h.answer call
    have hrest := ih haccurate
    rw [hbudget, hentries] at hrest
    obtain ⟨hreplies, hfinal, hend⟩ := hrest
    dsimp only [replies]
    exact ⟨by rw [hreply, hreplies], hfinal, hend⟩

end Accurate

/-- From an empty store on, every sequence of calls is answered as the recency list answers it, and
the store holds the pairs of the list, whose keys are distinct. -/
theorem replies_eq_recencyList (budget : Nat) (calls : List Call) :
    let final := replies Store.answer calls (empty budget)
    let expected := replies (RecencyList.answer budget) calls []
    final.1 = expected.1 ∧ final.2.entries = expected.2 ∧ (expected.2.map Prod.fst).Nodup := by
  have hagree := (Accurate.empty budget).replies_agree calls
  dsimp only at hagree ⊢
  obtain ⟨hreplies, hentries, haccurate⟩ := hagree
  exact ⟨hreplies, hentries, hentries ▸ haccurate.distinct⟩

end Store

end TorrentSearch.Cache
