import Mustache.Proofs.Cache.Demand
import Mustache.Proofs.Cache.Provided
import Mustache.Proofs.Cache.Recency

/-!
# What an engine keeps of a sequence of requests

Templates are asked for by names and as texts of lambdas, and all that is kept is dropped now and
then, in any order, and some requests end in faults. A ledger notes the sources that have been
loaded through loaders since the last clearing, and the texts of lambdas that were not answered by
templates from loaders. What the engine keeps can be told from the ledger: the templates from
loaders are those of the sources loaded, and the texts from lambdas are the ones that have been used
most recently.

## Main definitions

* `Mustache.Demand` — a request for a template, or a clearing.
* `Mustache.Ledger` — sources loaded, and texts used.
* `Mustache.Ledger.Accounts` — what is kept, told from the ledger.

## Main results

* `Mustache.Ledger.Accounts.after` — a demand keeps the ledger right.
* `Mustache.caches_accounted` — so does a sequence of demands.
-/

namespace Mustache

/-! ## Demands and their ledger -/

/-- **What an engine is asked to do**: to come up with a template, or to drop those that it
keeps. -/
inductive Demand where
  | want (w : Wanted)
  | clear

def Demand.act : Demand → Action (Option Template)
  | want w => w.load
  | clear => do
    forgetTemplates
    pure none

/-- **A ledger of requests since the last clearing**: the sources that have been loaded through
loaders, and the texts of lambdas that were not answered by a template from a loader, in the order
of the requests. Requests that end in a fault are not noted. -/
structure Ledger where
  loaded : List String
  texts : List String

namespace Ledger

/-- Nothing noted. -/
def blank : Ledger := ⟨[], []⟩

/-- One more source that has been loaded. -/
def load (l : Ledger) (x : String) : Ledger := { l with loaded := l.loaded ++ [x] }

/-- One more text that has been used. -/
def use (l : Ledger) (x : String) : Ledger := { l with texts := l.texts ++ [x] }

/-- What is noted of a request for a source that ends well, on an engine of the given
configuration. -/
def note (c : Engine) (b : Books) (l : Ledger) (x : String) : Wanted → Ledger
  | .named _ | .included _ => l.load x
  | .text _ _ => if (b.templates.lookup (c.className x)).isSome then l else l.use x

/-- The ledger after a demand. -/
def after (c : Engine) (s : Session) (l : Ledger) : Demand → Ledger
  | .clear => blank
  | .want w =>
    match w.load s, w.source? s with
    | .ok (some _) _, some x => l.note c s.books x w
    | _, _ => l

/-- The session that some demands leave behind, and the ledger of them. -/
def run (c : Engine) (s : Session) (l : Ledger) : List Demand → Session × Ledger
  | [] => (s, l)
  | d :: ds => run c (sessionOf (d.act s)) (l.after c s d) ds

/-- **What is kept, told from the ledger.** -/
structure Accounts (c : Engine) (l : Ledger) (templates lambdas : List (String × Template)) :
    Prop where
  /-- The texts kept are those used most recently, the latest last. -/
  recent : lambdas.map Prod.fst = Recent.lastUsed c.lambdaCapacity (l.texts.map c.className)
  /-- The templates kept are those of the sources loaded. -/
  main : ∀ key, key ∈ templates.map Prod.fst ↔ key ∈ l.loaded.map c.className
  distinct : (templates.map Prod.fst).Nodup
  /-- Every template kept is one of a source loaded, and not of a text alone. -/
  loaded : ∀ entry ∈ templates, entry.2.source ∈ l.loaded
  texts : ∀ entry ∈ lambdas, entry.2.source ∈ l.texts
  /-- Everything is kept under the key of its source. -/
  keys : ∀ entry ∈ templates ++ lambdas,
    c.className entry.2.source = entry.1 ∧ entry.2.className = entry.1

theorem accounts_blank (c : Engine) : blank.Accounts c [] [] where
  recent := (List.rtake_nil c.lambdaCapacity).symm
  main _ := Iff.rfl
  distinct := List.nodup_nil
  loaded := nofun
  texts := nofun
  keys := nofun

namespace Accounts

variable {c : Engine} {l : Ledger} {templates lambdas : List (String × Template)} {x : String}
  {t : Template} (h : l.Accounts c templates lambdas)

include h

/-- A source is loaded once more. -/
theorem load_again (hmem : c.className x ∈ templates.map Prod.fst) :
    (l.load x).Accounts c templates lambdas where
  recent := h.recent
  main key := by
    rw [h.main, load, List.map_append, List.mem_append, List.map_singleton,
      List.mem_singleton]
    constructor
    · exact .inl
    · rintro (hkey | rfl)
      · exact hkey
      · exact (h.main _).1 hmem
  distinct := h.distinct
  loaded entry hentry := List.mem_append_left _ (h.loaded entry hentry)
  texts := h.texts
  keys := h.keys

/-- A source is loaded, and its template is kept. -/
theorem load (hnot : c.className x ∉ templates.map Prod.fst) (hsource : t.source = x)
    (hkey : t.className = c.className x) :
    (l.load x).Accounts c (templates ++ [(c.className x, t)]) lambdas where
  recent := h.recent
  main key := by
    rw [List.map_append, List.mem_append, h.main, Ledger.load, List.map_append,
      List.mem_append]
    rfl
  distinct := by
    rw [List.map_append, List.nodup_append]
    refine ⟨h.distinct, List.nodup_singleton _, ?_⟩
    rintro key hmem _ hself rfl
    obtain rfl := List.mem_singleton.1 hself
    exact hnot hmem
  loaded entry hentry := by
    rcases List.mem_append.1 hentry with hentry | hentry
    · exact List.mem_append_left _ (h.loaded entry hentry)
    · obtain rfl := List.mem_singleton.1 hentry
      exact List.mem_append_right _ (by simp [hsource])
  texts := h.texts
  keys entry hentry := by
    rw [List.append_assoc, List.mem_append, List.mem_append, List.mem_singleton] at hentry
    rcases hentry with hentry | rfl | hentry
    · exact h.keys entry (List.mem_append_left _ hentry)
    · exact ⟨congrArg c.className hsource, hkey⟩
    · exact h.keys entry (List.mem_append_right _ hentry)

/-- A text that is kept is used once more. -/
theorem use_again (hmem : c.className x ∈ lambdas.map Prod.fst) :
    (l.use x).Accounts c templates (Recent.touch lambdas (c.className x)) where
  recent := by
    rw [Recent.keys_touch h.recent hmem, Ledger.use, List.map_append]
    rfl
  main := h.main
  distinct := h.distinct
  loaded := h.loaded
  texts entry hentry :=
    List.mem_append_left _ (h.texts entry (Recent.mem_of_mem_touch hentry))
  keys entry hentry := by
    rcases List.mem_append.1 hentry with hentry | hentry
    · exact h.keys entry (List.mem_append_left _ hentry)
    · exact h.keys entry (List.mem_append_right _ (Recent.mem_of_mem_touch hentry))

/-- A text that is not kept is used, and its template is kept from then on. -/
theorem use (hnot : c.className x ∉ lambdas.map Prod.fst) (hsource : t.source = x)
    (hkey : t.className = c.className x) : (l.use x).Accounts c templates
      (Recent.insert c.lambdaCapacity lambdas (c.className x) t) where
  recent := by
    rw [Recent.keys_insert h.recent hnot, Ledger.use, List.map_append]
    rfl
  main := h.main
  distinct := h.distinct
  loaded := h.loaded
  texts entry hentry := by
    rcases Recent.mem_of_mem_insert hentry with hentry | rfl
    · exact List.mem_append_left _ (h.texts entry hentry)
    · exact List.mem_append_right _ (by simp [hsource])
  keys entry hentry := by
    rcases List.mem_append.1 hentry with hentry | hentry
    · exact h.keys entry (List.mem_append_left _ hentry)
    · rcases Recent.mem_of_mem_insert hentry with hentry | rfl
      · exact h.keys entry (List.mem_append_right _ hentry)
      · exact ⟨congrArg c.className hsource, hkey⟩

end Accounts

/-! ## Requests -/

section

variable {c : Engine} {s : Session} {l : Ledger}

/-- A request that comes up with a template is noted. -/
theorem after_of_ok {w : Wanted} {t : Template} {s' : Session} (hrun : w.load s = .ok (some t) s')
    {x : String} (hsource : w.source? s = some x) :
    l.after c s (.want w) = l.note c s.books x w := by
  simp only [after, hrun, hsource]

/-- A request that comes up with none is not. -/
theorem after_of_none {w : Wanted} {s' : Session} (hrun : w.load s = .ok none s') :
    l.after c s (.want w) = l := by
  simp only [after, hrun]

theorem after_of_error {w : Wanted} {e : Fault} {s' : Session} (hrun : w.load s = .error e s') :
    l.after c s (.want w) = l := by
  simp only [after, hrun]

theorem key_mem_of_lookup {entries : List (String × Template)} {key : String} {t : Template}
    (h : entries.lookup key = some t) : key ∈ entries.map Prod.fst := by
  obtain ⟨before, after, rfl, -⟩ := List.lookup_eq_some_iff.1 h
  simp

theorem key_not_mem_of_lookup {entries : List (String × Template)} {key : String}
    (h : entries.lookup key = none) : key ∉ entries.map Prod.fst := by
  intro hmem
  obtain ⟨entry, hentry, rfl⟩ := List.mem_map.1 hmem
  simpa using List.lookup_eq_none_iff.1 h entry hentry

variable (h : l.Accounts c s.books.templates s.books.lambdas)

include h

/-- A request that is answered by what is kept. -/
theorem Accounts.answered {w : Wanted} {x : String} {t : Template}
    (held : (w.consulted s.books).lookup (c.className x) = some t) :
    (l.note c s.books x w).Accounts c (w.use (s.books.ask x) (c.className x)).templates
      (w.use (s.books.ask x) (c.className x)).lambdas := by
  cases w with
  | named _ | included _ => exact h.load_again (key_mem_of_lookup held)
  | text text delims =>
    have hor : (s.books.templates.lookup (c.className x)).or
        (s.books.lambdas.lookup (c.className x)) = some t := by
      rw [← List.lookup_append]
      exact held
    cases hmain : s.books.templates.lookup (c.className x) with
    | some t' =>
      have hheld : ((s.books.ask x).templates.lookup (c.className x)).isSome = true := by
        show (s.books.templates.lookup (c.className x)).isSome = true
        rw [hmain]
        rfl
      rw [note, hmain, if_pos (by simp), Wanted.use, if_pos hheld]
      exact h
    | none =>
      have hunheld : ¬ ((s.books.ask x).templates.lookup (c.className x)).isSome = true := by
        show ¬ (s.books.templates.lookup (c.className x)).isSome = true
        simp [hmain]
      rw [hmain, Option.none_or] at hor
      rw [note, hmain, if_neg (by simp), Wanted.use, if_neg hunheld]
      exact h.use_again (key_mem_of_lookup hor)

/-- A request for which a template is compiled. -/
theorem Accounts.compiled {w : Wanted} {x : String} {t : Template}
    (unheld : (w.consulted s.books).lookup (c.className x) = none) (hsource : t.source = x)
    (hkey : t.className = c.className x) : (l.note c s.books x w).Accounts c
      (w.keep c.lambdaCapacity (s.books.ask x).make (c.className x) t).templates
      (w.keep c.lambdaCapacity (s.books.ask x).make (c.className x) t).lambdas := by
  cases w with
  | named _ | included _ => exact h.load (key_not_mem_of_lookup unheld) hsource hkey
  | text text delims =>
    have hor : (s.books.templates.lookup (c.className x)).or
        (s.books.lambdas.lookup (c.className x)) = none := by
      rw [← List.lookup_append]
      exact unheld
    obtain ⟨hmain, hrecent⟩ := Option.or_eq_none_iff.1 hor
    rw [note, hmain, if_neg (by simp)]
    exact h.use (key_not_mem_of_lookup hrecent) hsource hkey

/-- **A request keeps the ledger right**, however it ends. -/
theorem Accounts.want (hconfiguration : s.books.configuration = some c.settings) (w : Wanted) :
    (l.after c s (.want w)).Accounts c (sessionOf (w.load s)).books.templates
      (sessionOf (w.load s)).books.lambdas := by
  have hends := w.ends_load hconfiguration
  generalize hrun : w.load s = result at hends
  cases hends with
  | answered source held books =>
    rw [after_of_ok hrun source, sessionOf, books]
    exact h.answered held
  | compiled source unheld made books =>
    rw [after_of_ok hrun source, sessionOf, books]
    exact h.compiled unheld made.1 made.2.1
  | missing included source books =>
    rw [after_of_none hrun, sessionOf, books]
    exact h
  | unfound loaded books =>
    rw [after_of_error hrun, sessionOf, books]
    exact h
  | uncompiled source unheld books =>
    rw [after_of_error hrun, sessionOf, books]
    exact h

/-- **A demand keeps the ledger right**, and the configuration of the engine as it is. -/
theorem Accounts.after (hconfiguration : s.books.configuration = some c.settings) (d : Demand) :
    (l.after c s d).Accounts c (sessionOf (d.act s)).books.templates
        (sessionOf (d.act s)).books.lambdas ∧
      (sessionOf (d.act s)).books.configuration = some c.settings := by
  cases d with
  | want w =>
    refine ⟨h.want hconfiguration w, ?_⟩
    rw [← hconfiguration]
    exact (w.keeps_load s).engine
  | clear =>
    obtain ⟨e, he, hkeeps⟩ := Session.exists_engine hconfiguration
    have hbooks : (sessionOf (Demand.clear.act s)).books =
        { s.books with templates := [], lambdas := [] } :=
      books_modifyEngine he (f := Engine.forget) rfl
    rw [hbooks]
    exact ⟨accounts_blank c, hconfiguration⟩

end

/-- **The ledger stays right** whatever is demanded. -/
theorem Accounts.run {c : Engine} {s : Session} {l : Ledger}
    (h : l.Accounts c s.books.templates s.books.lambdas)
    (hconfiguration : s.books.configuration = some c.settings) (ds : List Demand) :
    (run c s l ds).2.Accounts c (run c s l ds).1.books.templates (run c s l ds).1.books.lambdas ∧
      (run c s l ds).1.books.configuration = some c.settings := by
  induction ds generalizing s l with
  | nil => exact ⟨h, hconfiguration⟩
  | cons d ds ih =>
    obtain ⟨hafter, hsame⟩ := h.after hconfiguration d
    exact ih hafter hsame

end Ledger

/-! ## Sequences of demands -/

/-- **The discipline of the caches.** Let an engine that keeps nothing yet be asked for templates,
by names for its loaders and as texts of lambdas, and let it drop what it keeps, in any order; a
request may end well or in a fault. Afterwards the engine keeps what the ledger says.

* The texts of lambdas that it keeps are at most as many as it may keep. Their keys are those of the
  texts that have been used most recently, the latest last, among the requests since the last
  clearing that ended well and were not answered by a template from a loader.
* The templates from loaders that it keeps are under the keys of the sources loaded since then, and
  they are templates of sources that have been loaded.
* Whatever is kept has been compiled from a source with its key.

Each request ends in one of the ways of `Wanted.Ends`: a template is compiled if the request is
answered by none of those that it is looked for among, and only then; and if it ends in a fault,
what is kept stays as it was. And a text of a lambda has nothing to do with the persistent cache:
with any other cache and any other files the same comes of it, and these are left as they are.

**Proof sketch.** Induction on the demands. What a request does to the books is read off its end
(`Wanted.ends_load`), and in each case the ledger stays right (`Ledger.Accounts.want`); the order of
the texts is that of their last uses (`Recent.keys_touch`, `Recent.keys_insert`). -/
theorem caches_accounted {s : Session} {c : Engine} (hc : s.engine = some c)
    (htemplates : c.templates = []) (hlambdas : c.lambdas = []) (ds : List Demand) :
    (∃ e, (Ledger.run c s .blank ds).1.engine = some e ∧ e.settings = c.settings ∧
      e.lambdas.length ≤ c.lambdaCapacity ∧
      (Ledger.run c s .blank ds).2.Accounts c e.templates e.lambdas) ∧
    (∀ (w : Wanted) (s : Session) (e : Engine), s.engine = some e → w.Ends e s (w.load s)) ∧
    ∀ (text : String) (delims : Option String) (s : Session) (cache : Cache) (files : FileTree),
      SameEnd (fun s s' => s' = s.stored cache files) (loadText text delims s)
        (loadText text delims (s.stored cache files)) := by
  have hbooks {s : Session} {e : Engine} (he : s.engine = some e) :
      s.books.configuration = some e.settings := by
    rw [Session.books, he]
    rfl
  refine ⟨?_, fun w s e he => w.ends_load (hbooks he), fun text delims s cache files =>
    loadText_stored text delims s⟩
  have hstart : Ledger.blank.Accounts c s.books.templates s.books.lambdas := by
    have hnone : s.books.templates = [] ∧ s.books.lambdas = [] := by
      rw [Session.books, hc]
      exact ⟨htemplates, hlambdas⟩
    rw [hnone.1, hnone.2]
    exact Ledger.accounts_blank c
  obtain ⟨hrun, hsame⟩ := hstart.run (hbooks hc) ds
  obtain ⟨e, he, hkeeps⟩ := Session.exists_engine hsame
  rw [← hkeeps.templates, ← hkeeps.lambdas] at hrun
  refine ⟨e, he, hkeeps.settings, ?_, hrun⟩
  rw [← List.length_map Prod.fst, hrun.recent]
  exact Recent.length_lastUsed_le _ _

/-- An engine with room for one text of a lambda. -/
def Engine.narrow : Engine := { tabled "p" "x" with lambdaCapacity := 1 }

/-- A text, another one, one that cannot be parsed, the partial, its text, and the first text
again. -/
def Demand.mixed : List Demand :=
  [want (.text "a" none), want (.text "b" none), want (.text "\x7b\x7b" none),
    want (.included "p"), want (.text "x" none), want (.text "a" none)]

/-- The first text goes for the second one, and the second one when the first one comes again. The
text that cannot be parsed is not kept, and the text of the partial is answered by its template. -/
theorem caches_accounted_narrow :
    ∃ e, (Ledger.run .narrow (.unused .narrow) .blank Demand.mixed).1.engine = some e ∧
      e.lambdas.length ≤ 1 ∧
      e.lambdas.map Prod.fst = [Engine.narrow.className "a"] ∧
      ∀ key, key ∈ e.templates.map Prod.fst ↔ key ∈ [Engine.narrow.className "x"] := by
  have hengine : (Session.unused .narrow).engine = some .narrow := rfl
  obtain ⟨e, he, -, hlength, haccounts⟩ := (caches_accounted hengine rfl rfl Demand.mixed).1
  obtain ⟨htexts, hloaded⟩ :
      (Ledger.run .narrow (.unused .narrow) .blank Demand.mixed).2.texts = ["a", "b", "a"] ∧
        (Ledger.run .narrow (.unused .narrow) .blank Demand.mixed).2.loaded = ["x"] := by
    decide +kernel
  refine ⟨e, he, hlength, ?_, fun key => ?_⟩
  · rw [haccounts.recent, htexts]
    decide +kernel
  · rw [haccounts.main, hloaded]
    rfl

end Mustache
