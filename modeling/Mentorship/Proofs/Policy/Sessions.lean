import Mentorship.Policy.Session
import Mentorship.Proofs.Policy.Checked

/-! Stores against plain reading. Step by step, a store answers what the document at its path says
at that moment, as long as documents with one modification time have one content; and it hands out
an object again exactly while the document has the time at which that object was read. -/

namespace Mentorship.Policy

/-- The time at which a document was last written, if one is there. -/
def modified? (source : Source) : Option Int :=
  source.toOption.map (·.modified)

theorem modified?_eq_some_iff {source : Source} {m : Int} :
    modified? source = some m ↔ ∃ d, source = .ok d ∧ d.modified = m := by
  cases source <;> simp [modified?, Except.toOption]

namespace Step

/-- What stands at the path after a step. -/
def leave (source : Source) : Step → Source
  | .write document => .ok document
  | .remove => .error .notFound
  | _ => source

/-- A step that has the document read: a reload, or a load where its time is not cached. -/
def Reads (source : Source) (s : Store) : Step → Prop
  | .load => ∀ c ∈ s.cached, modified? source ≠ some c.modified
  | .reload => True
  | _ => False

/-- What a step can do to a store over what stands at its path: the step, its answer, and the store
after it. -/
inductive Does (source : Source) (s : Store) :
    Step → Option (Except Error Loaded) → Store → Prop
  | write (document : Document) : Does source s (.write document) none s
  | remove : Does source s .remove none s
  | clear : Does source s .clear none s.clear
  | hit {c : Cached} (hcached : s.cached = some c)
      (hmodified : modified? source = some c.modified) :
      Does source s .load (some (.ok c.loaded)) s
  | fail {x : Step} {e : Error} (hreads : x.Reads source s)
      (herror : ofSource s.mode s.path source = .error e) : Does source s x (some (.error e)) s
  | read {x : Step} {document : Document} {policy : Policy} (hreads : x.Reads source s)
      (hsource : source = .ok document) (hpolicy : ofSource s.mode s.path source = .ok policy) :
      Does source s x (some (.ok ⟨s.issued, policy⟩))
        { s with issued := s.issued + 1, cached := some ⟨document.modified, ⟨s.issued, policy⟩⟩ }

end Step

namespace Step.Does

variable {source : Source} {s s' : Store} {x : Step} {answer : Option (Except Error Loaded)}

theorem path_eq (h : x.Does source s answer s') : s'.path = s.path := by
  cases h <;> rfl

theorem mode_eq (h : x.Does source s answer s') : s'.mode = s.mode := by
  cases h <;> rfl

/-- What a step serves was cached with the time of the document, or is read and has the next serial
number; any other step leaves the store as it is, unless it clears it. -/
theorem served_cases (h : x.Does source s answer s') :
    (∃ c, s.cached = some c ∧ modified? source = some c.modified ∧ x = .load ∧
        answer = some (.ok c.loaded) ∧ s' = s) ∨
      (∃ m l, modified? source = some m ∧ ofSource s.mode s.path source = .ok l.policy ∧
        l.serial = s.issued ∧ answer = some (.ok l) ∧
        s' = { s with issued := s.issued + 1, cached := some ⟨m, l⟩ }) ∨
      (∀ l, answer ≠ some (.ok l)) ∧ (x = .clear ∧ s' = s.clear ∨ x ≠ .clear ∧ s' = s) := by
  cases h with
  | hit hcached hmodified => exact .inl ⟨_, hcached, hmodified, rfl, rfl, rfl⟩
  | read _ hsource hpolicy =>
    exact .inr (.inl ⟨_, _, modified?_eq_some_iff.mpr ⟨_, hsource, rfl⟩, hpolicy, rfl, rfl, rfl⟩)
  | clear => exact .inr (.inr ⟨by simp, .inl ⟨rfl, rfl⟩⟩)
  | write | remove => exact .inr (.inr ⟨by simp, .inr ⟨by simp, rfl⟩⟩)
  | fail hreads =>
    refine .inr (.inr ⟨by simp, .inr ⟨?_, rfl⟩⟩)
    rintro rfl
    exact hreads

theorem of_served {l : Loaded} (h : x.Does source s (some (.ok l)) s') :
    (∃ c, s.cached = some c ∧ modified? source = some c.modified ∧ x = .load ∧ c.loaded = l) ∨
      ∃ m, modified? source = some m ∧ ofSource s.mode s.path source = .ok l.policy ∧
        l.serial = s.issued := by
  rcases h.served_cases with ⟨c, hc, hm, hload, hanswer, -⟩ |
    ⟨m, _, hm, hpolicy, hserial, hanswer, -⟩ | ⟨hnone, -⟩
  · cases hanswer
    exact .inl ⟨c, hc, hm, hload, rfl⟩
  · cases hanswer
    exact .inr ⟨m, hm, hpolicy, hserial⟩
  · exact absurd rfl (hnone l)

/-- A load does not read while the time of the document is cached. -/
theorem of_cached {a : Except Error Loaded} (h : Step.load.Does source s (some a) s') {c : Cached}
    (hcached : s.cached = some c) (hmodified : modified? source = some c.modified) :
    a = .ok c.loaded := by
  cases h with
  | hit hcached' =>
    cases hcached.symm.trans hcached'
    rfl
  | read hreads | fail hreads => exact absurd hmodified (hreads c hcached)

theorem of_failed {e : Error} (h : x.Does source s (some (.error e)) s') :
    ofSource s.mode s.path source = .error e ∧ s' = s := by
  cases h with
  | fail _ herror => exact ⟨herror, rfl⟩

end Step.Does

/-! ### One step -/

namespace Store

variable {source : Source} {s : Store}

theorem reload_does {x : Step} (hreads : x.Reads source s) :
    x.Does source s (some (s.reload source).1) (s.reload source).2 := by
  cases source with
  | error fault => exact .fail hreads rfl
  | ok document =>
    unfold reload
    cases hpolicy : ofSource s.mode s.path (.ok document) with
    | error e => exact .fail hreads hpolicy
    | ok policy => exact .read hreads rfl hpolicy

/-- A load finds the time of the document cached, or is a reload. -/
theorem load_does (source : Source) (s : Store) :
    Step.load.Does source s (some (s.load source).1) (s.load source).2 := by
  cases source with
  | error fault => exact .fail (fun _ _ h => nomatch h) rfl
  | ok document =>
    cases hcached : s.cached with
    | none =>
      have hload : s.load (.ok document) = s.reload (.ok document) := by simp [load, hcached]
      rw [hload]
      exact reload_does (by simp [Step.Reads, hcached])
    | some c =>
      by_cases hmodified : c.modified = document.modified
      · have hload : s.load (.ok document) = (.ok c.loaded, s) := by simp [load, hcached, hmodified]
        rw [hload]
        exact .hit hcached (congrArg some hmodified.symm)
      · have hload : s.load (.ok document) = s.reload (.ok document) := by
          simp [load, hcached, hmodified]
        rw [hload]
        refine reload_does fun c' hc' hsame => hmodified ?_
        cases hcached.symm.trans hc'
        exact (Option.some.inj hsame).symm

end Store

namespace Session

theorem step_source (s : Session) (x : Step) : (s.step x).2.source = x.leave s.source := by
  cases x <;> rfl

theorem step_does (s : Session) (x : Step) :
    x.Does s.source s.store (s.step x).1 (s.step x).2.store := by
  cases x with
  | write document => exact .write document
  | remove => exact .remove
  | clear => exact .clear
  | load => exact Store.load_does s.source s.store
  | reload => exact Store.reload_does trivial

/-! ### The steps of a run -/

/-- What stands at the path before the step at a place, where nothing stands at first. -/
def sourceBefore (xs : List Step) (i : Nat) : Source :=
  (xs.take i).foldl Step.leave (.error .notFound)

/-- What stands at the path after some steps stood there before or was written by one of them. -/
theorem mem_of_foldl_leave {ys : List Step} {source : Source} {document : Document}
    (h : ys.foldl Step.leave source = .ok document) :
    source = .ok document ∨ .write document ∈ ys := by
  induction ys generalizing source with
  | nil => exact .inl h
  | cons y ys ih =>
    rcases ih h with hsource | hmem
    · cases y with
      | write document' =>
        cases hsource
        exact .inr List.mem_cons_self
      | remove => cases hsource
      | clear | load | reload => exact .inl hsource
    · exact .inr (List.mem_cons_of_mem _ hmem)

theorem write_mem_of_sourceBefore {xs : List Step} {i : Nat} {document : Document}
    (h : sourceBefore xs i = .ok document) : .write document ∈ xs := by
  rcases mem_of_foldl_leave h with hsource | hmem
  · cases hsource
  · exact List.mem_of_mem_take hmem

variable (path : String) (mode : Mode) (xs : List Step)

/-- The answers to steps from the start. -/
def answers : List (Option (Except Error Loaded)) :=
  ((start path mode).run xs).1

/-- The store before the step at a place. -/
def storeBefore (i : Nat) : Store :=
  ((start path mode).run (xs.take i)).2.store

/-- An object that was not served before a place. -/
def IsNew (i : Nat) (l : Loaded) : Prop :=
  ∀ j < i, ∀ l', (answers path mode xs)[j]? = some (some (.ok l')) → l'.serial ≠ l.serial

/-- The last successful read before the place `i` is that at the place `j`, and the store has not
been cleared since: what was served there was new, and has alone been served from there on. -/
structure LastRead (i j : Nat) (l : Loaded) : Prop where
  lt : j < i
  answer_eq : (answers path mode xs)[j]? = some (some (.ok l))
  isNew : IsNew path mode xs j l
  ne_clear : ∀ k, j < k → k < i → xs[k]? ≠ some .clear
  eq_of_served : ∀ k, j < k → k < i → ∀ l',
    (answers path mode xs)[k]? = some (some (.ok l')) → l' = l

variable {path mode xs} {i j : Nat} {x : Step} {l : Loaded}
  {answer : Option (Except Error Loaded)}

theorem run_source (s : Session) (ys : List Step) :
    (s.run ys).2.source = ys.foldl Step.leave s.source := by
  induction ys generalizing s with
  | nil => rfl
  | cons y ys ih =>
    rw [List.foldl_cons, ← step_source]
    exact ih _

theorem getElem?_run {s : Session} {ys : List Step} (hx : ys[i]? = some x) :
    (s.run ys).1[i]? = some ((s.run (ys.take i)).2.step x).1 := by
  induction ys generalizing s i with
  | nil => cases hx
  | cons y ys ih =>
    cases i with
    | zero =>
      cases hx
      rfl
    | succ i => exact ih hx

theorem run_take_succ {s : Session} {ys : List Step} (hx : ys[i]? = some x) :
    (s.run (ys.take (i + 1))).2 = ((s.run (ys.take i)).2.step x).2 := by
  rw [List.take_add_one, hx, run_append]
  rfl

/-- The answer at a place and the store after it come of the step there. -/
theorem does_of_answer (hx : xs[i]? = some x) (ha : (answers path mode xs)[i]? = some answer) :
    x.Does (sourceBefore xs i) (storeBefore path mode xs i) answer
      (storeBefore path mode xs (i + 1)) := by
  have hdoes := step_does ((start path mode).run (xs.take i)).2 x
  rw [answers, getElem?_run hx] at ha
  rw [run_source, Option.some.inj ha, ← run_take_succ hx] at hdoes
  exact hdoes

theorem exists_answer (path : String) (mode : Mode) (hx : xs[i]? = some x) :
    ∃ answer, (answers path mode xs)[i]? = some answer :=
  ⟨_, getElem?_run hx⟩

/-- The steps up to a place do not touch where the store looks, nor how. -/
theorem storeBefore_path_mode (path : String) (mode : Mode) (hi : i ≤ xs.length) :
    (storeBefore path mode xs i).path = path ∧ (storeBefore path mode xs i).mode = mode := by
  induction i with
  | zero => exact ⟨rfl, rfl⟩
  | succ i ih =>
    have hx : xs[i]? = some xs[i] := List.getElem?_eq_getElem hi
    obtain ⟨_, ha⟩ := exists_answer path mode hx
    have hdoes := does_of_answer hx ha
    obtain ⟨hpath, hmode⟩ := ih (Nat.le_of_succ_le hi)
    exact ⟨hdoes.path_eq.trans hpath, hdoes.mode_eq.trans hmode⟩

/-! ### What is cached -/

/-- The last read before the next place is the one here, or else the last one before this place
unless the store is cleared here. -/
theorem lastRead_succ_iff (hx : xs[i]? = some x) (ha : (answers path mode xs)[i]? = some answer) :
    LastRead path mode xs (i + 1) j l ↔
      (j = i ∧ answer = some (.ok l) ∧ IsNew path mode xs i l) ∨
        LastRead path mode xs i j l ∧ x ≠ .clear ∧ ∀ l', answer = some (.ok l') → l' = l := by
  constructor
  · intro h
    by_cases hj : j = i
    · subst hj
      exact .inl ⟨rfl, Option.some.inj (ha.symm.trans h.answer_eq), h.isNew⟩
    · have hlt : j < i := by have := h.lt; omega
      refine .inr ⟨⟨hlt, h.answer_eq, h.isNew, fun k hjk hk => h.ne_clear k hjk (by omega),
        fun k hjk hk => h.eq_of_served k hjk (by omega)⟩, ?_, fun l' hl' => ?_⟩
      · rintro rfl
        exact h.ne_clear i hlt (Nat.lt_succ_self i) hx
      · exact h.eq_of_served i hlt (Nat.lt_succ_self i) l' (hl' ▸ ha)
  · rintro (⟨rfl, rfl, hnew⟩ | ⟨h, hclear, hserved⟩)
    · exact ⟨Nat.lt_succ_self j, ha, hnew, fun k hjk hk => by omega, fun k hjk hk => by omega⟩
    · refine ⟨Nat.lt_succ_of_lt h.lt, h.answer_eq, h.isNew, fun k hjk hk => ?_,
        fun k hjk hk l' hl' => ?_⟩
      · by_cases hki : k = i
        · subst hki
          rw [hx]
          exact fun hxk => hclear (Option.some.inj hxk)
        · exact h.ne_clear k hjk (by omega)
      · by_cases hki : k = i
        · subst hki
          exact hserved l' (Option.some.inj (ha.symm.trans hl'))
        · exact h.eq_of_served k hjk (by omega) l' hl'

/-- The store before a place: whatever has been served has a number that was issued, and what is
cached is the last read with the time that the document had then. -/
structure Invariant (path : String) (mode : Mode) (xs : List Step) (i : Nat) : Prop where
  serial_lt : ∀ j < i, ∀ l, (answers path mode xs)[j]? = some (some (.ok l)) →
    l.serial < (storeBefore path mode xs i).issued
  cached_iff : ∀ c, (storeBefore path mode xs i).cached = some c ↔
    ∃ j, LastRead path mode xs i j c.loaded ∧ modified? (sourceBefore xs j) = some c.modified

theorem Invariant.zero : Invariant path mode xs 0 := by
  refine ⟨fun j hj => absurd hj (Nat.not_lt_zero j), fun c => ⟨fun h => ?_, ?_⟩⟩
  · cases h
  · rintro ⟨j, h, -⟩
    exact absurd h.lt (Nat.not_lt_zero j)

namespace Invariant

variable (h : Invariant path mode xs i)
include h

theorem isNew (hserial : (storeBefore path mode xs i).issued ≤ l.serial) :
    IsNew path mode xs i l :=
  fun j hj l' hl' => Nat.ne_of_lt (Nat.lt_of_lt_of_le (h.serial_lt j hj l' hl') hserial)

theorem serial_lt_of_cached {c : Cached} (hc : (storeBefore path mode xs i).cached = some c) :
    c.loaded.serial < (storeBefore path mode xs i).issued := by
  obtain ⟨j, hj, -⟩ := (h.cached_iff c).mp hc
  exact h.serial_lt j hj.lt _ hj.answer_eq

/-- The numbers stay below the next one, if what is served at a place has one of them. -/
theorem serial_lt_succ (ha : (answers path mode xs)[i]? = some answer)
    (hissued : (storeBefore path mode xs i).issued ≤ (storeBefore path mode xs (i + 1)).issued)
    (hserved : ∀ l, answer = some (.ok l) → l.serial < (storeBefore path mode xs (i + 1)).issued) :
    ∀ j < i + 1, ∀ l, (answers path mode xs)[j]? = some (some (.ok l)) →
      l.serial < (storeBefore path mode xs (i + 1)).issued := by
  intro j hj l hl
  by_cases hji : j = i
  · subst hji
    exact hserved l (Option.some.inj (ha.symm.trans hl))
  · exact Nat.lt_of_lt_of_le (h.serial_lt j (by omega) l hl) hissued

variable (hx : xs[i]? = some x) (ha : (answers path mode xs)[i]? = some answer)
include hx ha

theorem succ_of_hit {c : Cached} (hc : (storeBefore path mode xs i).cached = some c)
    (hload : x = .load) (hanswer : answer = some (.ok c.loaded))
    (hstore : storeBefore path mode xs (i + 1) = storeBefore path mode xs i) :
    Invariant path mode xs (i + 1) := by
  constructor
  · apply h.serial_lt_succ ha
    · rw [hstore]
    · intro l hl
      cases hanswer.symm.trans hl
      rw [hstore]
      exact h.serial_lt_of_cached hc
  · intro c'
    simp only [hstore, lastRead_succ_iff hx ha]
    constructor
    · intro hc'
      cases hc.symm.trans hc'
      obtain ⟨j, hj, hm⟩ := (h.cached_iff c).mp hc
      refine ⟨j, .inr ⟨hj, by simp [hload], fun l' hl' => ?_⟩, hm⟩
      cases hanswer.symm.trans hl'
      rfl
    · rintro ⟨j, ⟨rfl, hl, hnew⟩ | ⟨hj, -, -⟩, hm⟩
      · -- what is cached has been served before
        obtain ⟨k, hk, -⟩ := (h.cached_iff c).mp hc
        have hsame : c.loaded = c'.loaded := by simpa using hanswer.symm.trans hl
        exact absurd (congrArg Loaded.serial hsame) (hnew k hk.lt _ hk.answer_eq)
      · exact (h.cached_iff c').mpr ⟨j, hj, hm⟩

theorem succ_of_read {m : Int} (hm : modified? (sourceBefore xs i) = some m)
    (hserial : l.serial = (storeBefore path mode xs i).issued) (hanswer : answer = some (.ok l))
    (hstore : storeBefore path mode xs (i + 1) = { storeBefore path mode xs i with
      issued := (storeBefore path mode xs i).issued + 1, cached := some ⟨m, l⟩ }) :
    Invariant path mode xs (i + 1) := by
  constructor
  · apply h.serial_lt_succ ha
    · rw [hstore]
      exact Nat.le_succ _
    · intro l' hl'
      cases hanswer.symm.trans hl'
      rw [hstore, hserial]
      exact Nat.lt_succ_self _
  · intro c
    simp only [hstore, lastRead_succ_iff hx ha]
    constructor
    · rintro ⟨rfl⟩
      exact ⟨i, .inl ⟨rfl, hanswer, h.isNew (Nat.le_of_eq hserial.symm)⟩, hm⟩
    · rintro ⟨j, ⟨rfl, hl, -⟩ | ⟨hj, -, hserved⟩, hmj⟩
      · cases hanswer.symm.trans hl
        cases hm.symm.trans hmj
        rfl
      · -- what was read before has another number
        have hlt := h.serial_lt j hj.lt _ hj.answer_eq
        rw [← hserved l hanswer, hserial] at hlt
        exact absurd hlt (Nat.lt_irrefl _)

theorem succ_of_clear (hclear : x = .clear) (hnone : ∀ l, answer ≠ some (.ok l))
    (hstore : storeBefore path mode xs (i + 1) = (storeBefore path mode xs i).clear) :
    Invariant path mode xs (i + 1) := by
  constructor
  · apply h.serial_lt_succ ha
    · rw [hstore]
      exact Nat.le_refl _
    · exact fun l hl => absurd hl (hnone l)
  · intro c
    simp only [hstore, lastRead_succ_iff hx ha]
    constructor
    · intro hc
      cases hc
    · rintro ⟨j, ⟨-, hl, -⟩ | ⟨-, hne, -⟩, -⟩
      · exact absurd hl (hnone _)
      · exact absurd hclear hne

theorem succ_of_idle (hclear : x ≠ .clear) (hnone : ∀ l, answer ≠ some (.ok l))
    (hstore : storeBefore path mode xs (i + 1) = storeBefore path mode xs i) :
    Invariant path mode xs (i + 1) := by
  constructor
  · apply h.serial_lt_succ ha
    · rw [hstore]
    · exact fun l hl => absurd hl (hnone l)
  · intro c
    simp only [hstore, lastRead_succ_iff hx ha, h.cached_iff]
    constructor
    · rintro ⟨j, hj, hm⟩
      exact ⟨j, .inr ⟨hj, hclear, fun l hl => absurd hl (hnone l)⟩, hm⟩
    · rintro ⟨j, ⟨-, hl, -⟩ | ⟨hj, -, -⟩, hm⟩
      · exact absurd hl (hnone _)
      · exact ⟨j, hj, hm⟩

end Invariant

/-- The invariant holds before every step of a run. -/
theorem invariant (path : String) (mode : Mode) (hi : i ≤ xs.length) :
    Invariant path mode xs i := by
  induction i with
  | zero => exact .zero
  | succ i ih =>
    have hbefore := ih (Nat.le_of_succ_le hi)
    have hx : xs[i]? = some xs[i] := List.getElem?_eq_getElem hi
    obtain ⟨answer, ha⟩ := exists_answer path mode hx
    rcases (does_of_answer hx ha).served_cases with
      ⟨c, hc, -, hload, hanswer, hstore⟩ | ⟨m, l, hm, -, hserial, hanswer, hstore⟩ |
        ⟨hnone, ⟨hclear, hstore⟩ | ⟨hclear, hstore⟩⟩
    · exact hbefore.succ_of_hit hx ha hc hload hanswer hstore
    · exact hbefore.succ_of_read hx ha hm hserial hanswer hstore
    · exact hbefore.succ_of_clear hx ha hclear hnone hstore
    · exact hbefore.succ_of_idle hx ha hclear hnone hstore

/-! ### What is served -/

/-- Documents of one modification time have one content. -/
def OneContent (xs : List Step) : Prop :=
  ∀ d d', .write d ∈ xs → .write d' ∈ xs → d.modified = d'.modified → d.bytes = d'.bytes

theorem sourceBefore_eq (hxs : OneContent xs) {m : Int}
    (hi : modified? (sourceBefore xs i) = some m) (hj : modified? (sourceBefore xs j) = some m) :
    sourceBefore xs i = sourceBefore xs j := by
  obtain ⟨d, hd, rfl⟩ := modified?_eq_some_iff.mp hi
  obtain ⟨d', hd', hmodified⟩ := modified?_eq_some_iff.mp hj
  have hbytes : d'.bytes = d.bytes :=
    hxs d' d (write_mem_of_sourceBefore hd') (write_mem_of_sourceBefore hd) hmodified
  obtain ⟨bytes, modified⟩ := d'
  cases hbytes
  cases hmodified
  rw [hd, hd']

/-- What is served at a place is what the document says there, however long ago it was read. -/
theorem ofSource_of_served (hxs : OneContent xs) (hi : i < xs.length)
    (hl : (answers path mode xs)[i]? = some (some (.ok l))) :
    ofSource mode path (sourceBefore xs i) = .ok l.policy := by
  induction i using Nat.strongRecOn generalizing l with
  | ind i ih =>
    have hbefore := invariant path mode (Nat.le_of_lt hi)
    obtain ⟨hpath, hmode⟩ := storeBefore_path_mode path mode (Nat.le_of_lt hi)
    rcases (does_of_answer (List.getElem?_eq_getElem hi) hl).of_served with
      ⟨c, hc, hm, -, rfl⟩ | ⟨_, -, hpolicy, -⟩
    · -- the document has the content with which the cached policy was read
      obtain ⟨j, hj, hmj⟩ := (hbefore.cached_iff c).mp hc
      rw [sourceBefore_eq hxs hm hmj]
      exact ih j hj.lt (Nat.lt_trans hj.lt hi) hj.answer_eq
    · rwa [hpath, hmode] at hpolicy

/-- Every load and every reload of a run is answered with what plain reading of the path gives. -/
theorem map_policy_answer (hxs : OneContent xs) {a : Except Error Loaded} (hi : i < xs.length)
    (ha : (answers path mode xs)[i]? = some (some a)) :
    a.map (·.policy) = ofSource mode path (sourceBefore xs i) := by
  cases a with
  | ok l => exact (ofSource_of_served hxs hi ha).symm
  | error e =>
    have herror := (does_of_answer (List.getElem?_eq_getElem hi) ha).of_failed.1
    obtain ⟨hpath, hmode⟩ := storeBefore_path_mode path mode (Nat.le_of_lt hi)
    rw [hpath, hmode] at herror
    exact herror.symm

/-- A reload serves no object again. -/
theorem isNew_of_reload (hx : xs[i]? = some .reload)
    (hl : (answers path mode xs)[i]? = some (some (.ok l))) : IsNew path mode xs i l := by
  have hi : i < xs.length := (List.getElem?_eq_some_iff.mp hx).1
  rcases (does_of_answer hx hl).of_served with ⟨_, -, -, hload, -⟩ | ⟨_, -, -, hserial⟩
  · cases hload
  · exact (invariant path mode (Nat.le_of_lt hi)).isNew (Nat.le_of_eq hserial.symm)

/-- What was read last is cached with the time that the document had then. -/
theorem LastRead.exists_cached (h : LastRead path mode xs i j l) (hi : i ≤ xs.length) :
    ∃ m, modified? (sourceBefore xs j) = some m ∧
      (storeBefore path mode xs i).cached = some ⟨m, l⟩ := by
  have hj : j < xs.length := Nat.lt_of_lt_of_le h.lt hi
  have hcached {m : Int} (hm : modified? (sourceBefore xs j) = some m) :
      (storeBefore path mode xs i).cached = some ⟨m, l⟩ :=
    ((invariant path mode hi).cached_iff ⟨m, l⟩).mpr ⟨j, h, hm⟩
  rcases (does_of_answer (List.getElem?_eq_getElem hj) h.answer_eq).of_served with
    ⟨_, -, hm, -⟩ | ⟨_, hm, -⟩
  · exact ⟨_, hm, hcached hm⟩
  · exact ⟨_, hm, hcached hm⟩

/-- A load serves what was read last exactly if the document has the time that it had then. -/
theorem answer_eq_lastRead_iff {a : Except Error Loaded} (hx : xs[i]? = some .load)
    (ha : (answers path mode xs)[i]? = some (some a)) (h : LastRead path mode xs i j l) :
    a = .ok l ↔ modified? (sourceBefore xs i) = modified? (sourceBefore xs j) := by
  have hi : i ≤ xs.length := Nat.le_of_lt (List.getElem?_eq_some_iff.mp hx).1
  have hdoes := does_of_answer hx ha
  obtain ⟨m, hm, hcached⟩ := h.exists_cached hi
  constructor
  · rintro rfl
    rcases hdoes.of_served with ⟨c, hc, hmc, -, -⟩ | ⟨_, -, -, hserial⟩
    · cases hcached.symm.trans hc
      exact hmc.trans hm.symm
    · have hlt := (invariant path mode hi).serial_lt_of_cached hcached
      exact absurd hserial (Nat.ne_of_lt hlt)
  · exact fun hsame => hdoes.of_cached hcached (hsame.trans hm)

/-- A load serves what was read last, with the document of the same time as then, or a new object. -/
theorem lastRead_or_isNew (hx : xs[i]? = some .load)
    (hl : (answers path mode xs)[i]? = some (some (.ok l))) :
    (∃ j, LastRead path mode xs i j l ∧
        modified? (sourceBefore xs i) = modified? (sourceBefore xs j)) ∨
      IsNew path mode xs i l := by
  have hi : i ≤ xs.length := Nat.le_of_lt (List.getElem?_eq_some_iff.mp hx).1
  have hbefore := invariant path mode hi
  rcases (does_of_answer hx hl).of_served with ⟨c, hc, hm, -, rfl⟩ | ⟨_, -, -, hserial⟩
  · obtain ⟨j, hj, hmj⟩ := (hbefore.cached_iff c).mp hc
    exact .inl ⟨j, hj, hm.trans hmj.symm⟩
  · exact .inr (hbefore.isNew (Nat.le_of_eq hserial.symm))

end Session

/-! ### A document restored -/

/-- The document of a text. -/
def Document.ofText (text : String) (modified : Int) : Document :=
  ⟨text.toUTF8.data.toList, modified⟩

theorem fromUTF8?_ofText (text : String) (modified : Int) :
    String.fromUTF8? (Document.ofText text modified).bytes.toByteArray = some text := by
  have hbytes : (Document.ofText text modified).bytes.toByteArray = text.toUTF8 :=
    ByteArray.ext List.data_toByteArray
  rw [hbytes]
  exact dif_pos text.isValidUTF8

/-- A text that is read to its end comes to the check of what was read. -/
theorem ofSource_ofText {mode : Mode} {path text : String} {modified : Int} {d : Draft}
    (hread : Draft.read.run (text.toList.dropWhile (· == Text.byteOrderMark)) = .ok (d, [])) :
    ofSource mode path (.ok (.ofText text modified)) = check mode d := by
  have htext : Draft.ofText text = .ok d := by
    unfold Draft.ofText Json.Reader.document Text.dropByteOrderMarks
    rw [String.toList_ofList, hread]
    rfl
  simp only [ofSource, fromUTF8?_ofText, ofText, htext]

/-- The plain document, written as the list of its sections. -/
def plainText : String :=
  "[null, [\"type\", \"group\", \"gender\", \"graduation_status\", \"center\", \"finance\"], null,
    [[\"type\", \"type\"], [\"group\", \"group\"], [\"gender\", \"gender\"],
    [\"graduation_status\", \"graduation_status\"], [\"center\", \"center\"],
    [\"finance\", \"finance\"], [\"school\", \"school\"],
    [\"capacity_gate\", \"remaining_capacity\"]], null, null, \"deterministic\"]"

set_option maxRecDepth 10000 in
theorem ofSource_plainText (path : String) (modified : Int) :
    ofSource .migrate path (.ok (.ofText plainText modified)) = .ok (plain .deterministic) := by
  have htext : plainText.toList = _ := String.toList_ofList
  rw [ofSource_ofText, check_plain]
  rw [htext]
  decide +kernel

/-- A document is read, removed and restored with its old time. -/
def restored (d : Document) : List Step :=
  [.write d, .load, .remove, .load, .write d, .load]

namespace Session

section Restored
variable {path : String} {mode : Mode} {d : Document} {p : Policy}

theorem oneContent_restored : OneContent (restored d) := by
  intro d₁ d₂ h₁ h₂ _
  simp only [restored, List.mem_cons, Step.write.injEq, reduceCtorEq, List.not_mem_nil, or_false,
    false_or, or_self] at h₁ h₂
  rw [h₁, h₂]

theorem answers_restored (h : ofSource mode path (.ok d) = .ok p) :
    answers path mode (restored d) =
      [none, some (.ok ⟨0, p⟩), none, some (.error (.unreadable path .notFound)), none,
        some (.ok ⟨0, p⟩)] := by
  simp [answers, restored, run, step, start, Store.load, Store.reload, h]

theorem lastRead_restored (h : ofSource mode path (.ok d) = .ok p) :
    LastRead path mode (restored d) 5 1 ⟨0, p⟩ := by
  have hanswers := answers_restored h
  constructor
  case lt => omega
  case answer_eq =>
    rw [hanswers]
    rfl
  case isNew =>
    intro k hk l' hl'
    obtain rfl : k = 0 := by omega
    rw [hanswers] at hl'
    cases hl'
  case ne_clear =>
    intro k _ _ hclear
    have hmem := List.mem_of_getElem? hclear
    simp [restored] at hmem
  case eq_of_served =>
    intro k hk hk' l' hl'
    rw [hanswers] at hl'
    have hcases : k = 2 ∨ k = 3 ∨ k = 4 := by omega
    rcases hcases with rfl | rfl | rfl <;> cases hl'

end Restored

/-! ### Store against plain reading -/

variable {xs : List Step} {i : Nat}

/-- At every load and reload of a run the answer is what the document at the path says then. A
reload that succeeds serves a new object. A load serves the object read last, if the store has not
been cleared since, exactly if the document has the time that it had then, and in all other cases a
new one. Where the answer is an error, the store stays as it was. -/
theorem run_refines (path : String) (mode : Mode) (hxs : OneContent xs)
    (hi : xs[i]? = some .load ∨ xs[i]? = some .reload) :
    ∃ a, (answers path mode xs)[i]? = some (some a) ∧
      a.map (·.policy) = ofSource mode path (sourceBefore xs i) ∧
      (xs[i]? = some .reload → ∀ l, a = .ok l → IsNew path mode xs i l) ∧
      (xs[i]? = some .load → ∀ j l, LastRead path mode xs i j l →
        (a = .ok l ↔ modified? (sourceBefore xs i) = modified? (sourceBefore xs j))) ∧
      (xs[i]? = some .load → ∀ l, a = .ok l →
        (∃ j, LastRead path mode xs i j l ∧
            modified? (sourceBefore xs i) = modified? (sourceBefore xs j)) ∨
          IsNew path mode xs i l) ∧
      ∀ e, a = .error e → storeBefore path mode xs (i + 1) = storeBefore path mode xs i := by
  obtain ⟨a, ha⟩ : ∃ a, (answers path mode xs)[i]? = some (some a) := by
    rcases hi with hx | hx
    · exact ⟨_, getElem?_run hx⟩
    · exact ⟨_, getElem?_run hx⟩
  have hlt : i < xs.length := by
    rcases hi with hx | hx
    · exact (List.getElem?_eq_some_iff.mp hx).1
    · exact (List.getElem?_eq_some_iff.mp hx).1
  refine ⟨a, ha, map_policy_answer hxs hlt ha, fun hx l hl => isNew_of_reload hx (hl ▸ ha),
    fun hx j l h => answer_eq_lastRead_iff hx ha h, fun hx l hl => lastRead_or_isNew hx (hl ▸ ha),
    ?_⟩
  rintro e rfl
  exact (does_of_answer (List.getElem?_eq_getElem hlt) ha).of_failed.2

/-- What is read of the plain document first is served again, after a load that fails. -/
theorem run_refines_restored :
    OneContent (restored (.ofText plainText 1)) ∧
      LastRead "policy.json" .migrate (restored (.ofText plainText 1)) 5 1
        ⟨0, plain .deterministic⟩ ∧
      (answers "policy.json" .migrate (restored (.ofText plainText 1)))[5]? =
        some (some (.ok ⟨0, plain .deterministic⟩)) := by
  have hlast := lastRead_restored (ofSource_plainText "policy.json" 1)
  obtain ⟨a, ha, -, -, hload, -, -⟩ :=
    run_refines "policy.json" .migrate (oneContent_restored (d := .ofText plainText 1)) (i := 5)
      (.inl rfl)
  refine ⟨oneContent_restored, hlast, ?_⟩
  rw [ha, (hload rfl 1 _ hlast).mpr rfl]

end Session

end Mentorship.Policy
