import Mustache.Proofs.Session.Oblivious
import Mustache.Session.Load

/-!
# Loading that is oblivious of a difference

Loaders and persistent caches read and write files, or have objects of the user's own answer, and
give them nothing to render with. So what they answer, and what a cached value describes, is the
same whatever hidden difference there is between two sessions; and a condition that the surroundings
have no part in holds afterwards if it did before.

## Main results

* `Mustache.Cache.oblivious_load`, `Mustache.Cache.oblivious_dump` — persistent caches.
* `Mustache.oblivious_treeOf` — trees that objects describe.
* `Mustache.Loader.oblivious_find` — loaders.
* `Mustache.oblivious_treeFor` — the tree for a source.
-/

namespace Mustache

/-! ## Persistent caches -/

section

variable {R : Session → Session → Prop}

theorem oblivious_checkPath (l : Location) : Oblivious R (checkPath l) := .ite (.pure _) (.throw _)

variable (hR : IsStorable R)

include hR

theorem oblivious_putFiles (t : FileTree) :
    Oblivious R (modify fun s : Session => { s with files := t }) :=
  oblivious_modifyFiles hR fun _ => t

namespace CacheDirectory

theorem oblivious_log (d : CacheDirectory) (level : Level) (message : String) (fields : Fields) :
    Oblivious R (d.log level message fields) := by
  unfold log
  split
  · exact oblivious_logEvent hR.toIsLoggable _ _ _ _
  · exact .throw _

theorem oblivious_ensure (d : CacheDirectory) : Oblivious R d.ensure := by
  refine .get (fun s s' hs => by rw [hR.files hs]) fun s => ?_
  dsimp only
  split
  · exact .throw _
  · exact .pure _
  · refine .bind (oblivious_log hR d _ _ _) fun _ => .bind (oblivious_checkPath _) fun _ =>
      .bind (oblivious_putFiles hR _) fun _ => ?_
    split
    · exact .pure _
    · exact .throw _

theorem oblivious_place (d : CacheDirectory) (path temporary : Location) (tree : Tree) :
    Oblivious R (d.place path temporary tree) := by
  refine .get (fun s s' hs => by rw [hR.files hs]) fun s => ?_
  dsimp only
  split
  · exact .bind (oblivious_putFiles hR _) fun _ => .bind (.liftFault _) fun mode =>
      oblivious_modifyFiles hR fun t => t.setMode path mode
  · exact .bind (oblivious_log hR d _ _ _) fun _ => .throw _

theorem oblivious_refuse (path temporary : Location) (tree : Tree) :
    Oblivious R (refuse path temporary tree) := by
  refine .ite (.pure _) (.get (fun s s' hs => by rw [hR.files hs]) fun s => ?_)
  dsimp only
  split
  · exact .bind (oblivious_putFiles hR _) fun _ => .throw _
  · exact .throw _

theorem oblivious_dump (d : CacheDirectory) (key : String) (tree : Tree) :
    Oblivious R (d.dump key tree) := by
  refine .bind (oblivious_ensure hR d) fun _ =>
    .get (fun s s' hs => by rw [hR.files hs]) fun s => .bind (oblivious_log hR d _ _ _) fun _ => ?_
  exact .guard (.guard (.bind (oblivious_refuse hR _ _ _) fun _ => oblivious_place hR d _ _ _))

end CacheDirectory

end

section

variable {R : Session → Session → Prop} (hR : IsHidden R) {renders : Prop} {below : Below}
  (h : below.Oblivious R renders)

include hR h

theorem Cache.oblivious_load (c : Cache) (key : String) : Oblivious R (c.load below key) := by
  unfold Cache.load
  split
  · exact .pure _
  · exact .pure _
  · exact .bind (oblivious_checkPath _) fun _ =>
      .get (fun s s' hs => by rw [hR.storable.files hs]) fun _ => .pure _
  · exact Value.oblivious_callMember hR h (.inr (areIdle_singleton _)) _ _

theorem Cache.oblivious_dump (c : Cache) (key : String) (tree : Tree) :
    Oblivious R (c.dump below key tree) := by
  unfold Cache.dump
  split
  · exact .pure _
  · exact .pure _
  · exact .bind (CacheDirectory.oblivious_dump hR.storable _ _ _) fun _ => .pure _
  · exact .bind (Value.oblivious_callMember hR h (.inr (areIdle_tree _ _)) _ _) fun _ => .pure _

/-! ## Trees that objects describe, and loaders -/

theorem oblivious_treeOf (source : String) (v : Value) :
    Oblivious R (treeOf below source v) :=
  hR.tolerance.treeOf (h.congruent hR) source v

theorem Loader.oblivious_find (name : String) (l : Loader) : Oblivious R (l.find below name) :=
  hR.tolerance.find (h.congruent hR) name l fun _ _ =>
    .get (fun s s' hs => by rw [hR.storable.files hs]) fun _ => .liftFault _

end

/-! ## Trees for sources -/

section

variable {R : Session → Session → Prop} (hR : IsHidden R)

theorem oblivious_parseSource (source : String) (name : Value) :
    Oblivious R (parseSource source name) := by
  unfold parseSource
  cases parse source name .usual with
  | ok tree => exact .pure tree
  | error e => exact .throw _

include hR

theorem oblivious_putCache (cache : Cache) :
    Oblivious R (modifyEngine fun e => { e with cache }) :=
  fun _ _ hs => .ok (hR.cache hs cache)

/-- The tree for a source, which the persistent cache may have or be given. -/
theorem oblivious_treeFor {renders : Prop} {below : Below} (h : below.Oblivious R renders)
    (e : Engine) (source : Value) (className : String) (name : Value) :
    Oblivious R (treeFor below e source className name) := by
  unfold treeFor
  extract_lets fields parsed
  have hparsed : Oblivious R parsed := by
    unfold parsed
    split
    · exact oblivious_parseSource _ _
    · exact .throw _
  split
  · exact .bind (oblivious_logEvent hR.loggable _ _ _ _) fun _ => .bind hparsed fun _ => .pure _
  · refine .bind (Cache.oblivious_load hR h _ _) fun v => ?_
    split
    · exact .bind (oblivious_logEvent hR.loggable _ _ _ _) fun _ => .bind hparsed fun _ =>
        .bind (Cache.oblivious_dump hR h _ _ _) fun _ => .bind (oblivious_putCache hR _) fun _ =>
          .pure _
    · exact .pure _

end

end Mustache
