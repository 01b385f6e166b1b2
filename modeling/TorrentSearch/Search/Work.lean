import TorrentSearch.Search.Shared

/-!
# Work still to be done

A check as a tree of steps. Steps that only read or change what is shared take no time; pauses,
requests and locks let other checks go on meanwhile. Every piece of work is finite: `inside` relates
work to the work that is left after some of its steps, and this relation is well founded.
-/

namespace TorrentSearch.Search

inductive Work (α : Type) where
  | done (answer : α)
  | crash (text : String)
  | look (next : Shared → Work α)
  | change (f : Shared → Shared) (next : Work α)
  | pause (millis : Nat) (next : Work α)
  /-- A URL is requested under a time limit. -/
  | request (url : String) (timeout : Nat) (next : Http.Reply → Work α)
  /-- The lock of a name is waited for and taken. -/
  | acquire (lock : String) (next : Work α)
  /-- The lock of a name is given back. -/
  | release (lock : String) (next : Work α)

namespace Work

variable {α β : Type}

/-- Work that goes on with the answer of other work. -/
def bind (w : Work α) (f : α → Work β) : Work β :=
  match w with
  | done a => f a
  | crash text => crash text
  | look next => look fun s => bind (next s) f
  | change g next => change g (bind next f)
  | pause millis next => pause millis (bind next f)
  | request url timeout next => request url timeout fun r => bind (next r) f
  | acquire lock next => acquire lock (bind next f)
  | release lock next => release lock (bind next f)

instance : Monad Work where
  pure := done
  bind := bind

/-- What is shared is read and changed at once. -/
def consult (f : Shared → α × Shared) : Work α :=
  look fun s => change (fun s => (f s).2) (done (f s).1)

def update (f : Shared → Shared) : Work Unit := change f (done ())

def wait (millis : Nat) : Work Unit := pause millis (done ())

def fetch (url : String) (timeout : Nat) : Work Http.Reply := request url timeout done

def locked (lock : String) (w : Work α) : Work α :=
  acquire lock (bind w fun a => release lock (done a))

/-- The first piece of work is what a step of the second one leaves. -/
inductive After : Work α → Work α → Prop where
  | look (next : Shared → Work α) (s : Shared) : After (next s) (.look next)
  | change (f : Shared → Shared) (next : Work α) : After next (.change f next)
  | pause (millis : Nat) (next : Work α) : After next (.pause millis next)
  | request (url : String) (timeout : Nat) (next : Http.Reply → Work α) (r : Http.Reply) :
      After (next r) (.request url timeout next)
  | acquire (lock : String) (next : Work α) : After next (.acquire lock next)
  | release (lock : String) (next : Work α) : After next (.release lock next)

theorem acc_after (w : Work α) : Acc After w := by
  induction w with
  | done a => exact ⟨_, fun _ h => by cases h⟩
  | crash text => exact ⟨_, fun _ h => by cases h⟩
  | look next ih => exact ⟨_, fun _ h => by cases h with | look _ s => exact ih s⟩
  | change f next ih => exact ⟨_, fun _ h => by cases h with | change => exact ih⟩
  | pause millis next ih => exact ⟨_, fun _ h => by cases h with | pause => exact ih⟩
  | request url timeout next ih =>
    exact ⟨_, fun _ h => by cases h with | request _ _ _ r => exact ih r⟩
  | acquire lock next ih => exact ⟨_, fun _ h => by cases h with | acquire => exact ih⟩
  | release lock next ih => exact ⟨_, fun _ h => by cases h with | release => exact ih⟩

/-- The first piece of work is what some steps of the second one leave. -/
abbrev Inside : Work α → Work α → Prop := Relation.TransGen After

theorem acc_inside (w : Work α) : Acc Inside w := (acc_after w).transGen

end Work

/-- The work of several checks, in the order of the checks. -/
structure Load (α : Type) where
  works : List (Work α)

namespace Load

variable {α : Type}

/-- The first load is what the second one becomes when one of its checks goes on or ends. -/
inductive Lighter : Load α → Load α → Prop where
  | ends (front : List (Work α)) (w : Work α) (back : List (Work α)) :
      Lighter ⟨front ++ back⟩ ⟨front ++ w :: back⟩
  | goesOn (front : List (Work α)) (v w : Work α) (back : List (Work α)) (h : Work.Inside v w) :
      Lighter ⟨front ++ v :: back⟩ ⟨front ++ w :: back⟩

theorem acc_nil : Acc Lighter (⟨[]⟩ : Load α) := by
  refine ⟨_, fun l h => ?_⟩
  generalize hm : (⟨[]⟩ : Load α) = m at h
  cases h <;> simp at hm

theorem acc_cons (w : Work α) (l : List (Work α)) (h : Acc Lighter (⟨l⟩ : Load α)) :
    Acc Lighter (⟨w :: l⟩ : Load α) := by
  induction Work.acc_inside w generalizing l with
  | intro w _ ihw =>
    generalize hm : (⟨l⟩ : Load α) = m at h
    induction h generalizing l with
    | intro m hacc ihl =>
      subst hm
      refine ⟨_, fun m h => ?_⟩
      generalize hn : (⟨w :: l⟩ : Load α) = n at h
      cases h with
      | ends front v back =>
        cases front with
        | nil =>
          simp only [List.nil_append, mk.injEq, List.cons.injEq] at hn
          obtain ⟨-, rfl⟩ := hn
          exact ⟨_, hacc⟩
        | cons u front =>
          simp only [List.cons_append, mk.injEq, List.cons.injEq] at hn
          obtain ⟨rfl, rfl⟩ := hn
          exact ihl ⟨front ++ back⟩ (.ends front v back) _ rfl
      | goesOn front v u back hv =>
        cases front with
        | nil =>
          simp only [List.nil_append, mk.injEq, List.cons.injEq] at hn
          obtain ⟨rfl, rfl⟩ := hn
          exact ihw v hv _ ⟨_, hacc⟩
        | cons t front =>
          simp only [List.cons_append, mk.injEq, List.cons.injEq] at hn
          obtain ⟨rfl, rfl⟩ := hn
          exact ihl ⟨front ++ v :: back⟩ (.goesOn front v u back hv) _ rfl

theorem wellFounded_lighter : WellFounded (Lighter (α := α)) := by
  refine ⟨fun ⟨l⟩ => ?_⟩
  induction l with
  | nil => exact acc_nil
  | cons w l ih => exact acc_cons w l ih

instance : WellFoundedRelation (Load α) := ⟨Lighter, wellFounded_lighter⟩

end Load

end TorrentSearch.Search
