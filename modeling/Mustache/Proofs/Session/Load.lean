import Mustache.Proofs.Session.Kept

/-!
# What loading keeps

Loading a template looks into caches, may have the user's own objects answer, and stores what it
has parsed. All of this leaves the frames and the configuration of the engine as they are.

## Main results

* `Mustache.Cache.keeps_load`, `Mustache.Cache.keeps_dump` — persistent caches.
* `Mustache.keeps_treeOf` — trees that objects describe.
* `Mustache.Loader.keeps_find` — loaders.
* `Mustache.keeps_loadSource`, `Mustache.keeps_loadPartial?` — templates.
-/

namespace Mustache

/-! ## Persistent caches -/

theorem keeps_modifyFiles (f : Session → FileTree) :
    Keeps (modify fun s => { s with files := f s }) :=
  .modify fun _ => ⟨rfl, rfl, List.Subset.refl _, fun _ => Nat.le_refl _⟩

theorem keeps_checkPath (l : Location) : Keeps (checkPath l) := .ite (.pure _) (.throw _)

namespace CacheDirectory

theorem keeps_log (d : CacheDirectory) (level : Level) (message : String) (fields : Fields) :
    Keeps (d.log level message fields) := by
  unfold log
  split
  · exact keeps_logEvent _ _ _ _
  · exact .throw _

theorem keeps_ensure (d : CacheDirectory) : Keeps d.ensure := by
  refine .bind .get fun s => ?_
  dsimp only
  split
  · exact .throw _
  · exact .pure _
  · refine .bind (keeps_log d _ _ _) fun _ => .bind (keeps_checkPath _) fun _ =>
      .bind (keeps_modifyFiles _) fun _ => ?_
    split
    · exact .pure _
    · exact .throw _

theorem keeps_place (d : CacheDirectory) (path temporary : Location) (tree : Tree) :
    Keeps (d.place path temporary tree) := by
  refine .bind .get fun s => ?_
  dsimp only
  split
  · exact .bind (keeps_modifyFiles _) fun _ => .bind (.liftFault _) fun _ => keeps_modifyFiles _
  · exact .bind (keeps_log d _ _ _) fun _ => .throw _

theorem keeps_refuse (path temporary : Location) (tree : Tree) :
    Keeps (refuse path temporary tree) := by
  refine .ite (.pure _) (.bind .get fun s => ?_)
  dsimp only
  split
  · exact .bind (keeps_modifyFiles _) fun _ => .throw _
  · exact .throw _

theorem keeps_dump (d : CacheDirectory) (key : String) (tree : Tree) : Keeps (d.dump key tree) := by
  refine .bind (keeps_ensure d) fun _ => .bind .get fun s => .bind (keeps_log d _ _ _) fun _ => ?_
  exact .guard (.guard (.bind (keeps_refuse _ _ _) fun _ => keeps_place d _ _ _))

end CacheDirectory

section

variable {below : Below} (h : below.Keeps)

include h

theorem Cache.keeps_load (c : Cache) (key : String) : Keeps (c.load below key) := by
  unfold Cache.load
  split
  · exact .pure _
  · exact .pure _
  · exact .bind (keeps_checkPath _) fun _ => .bind .get fun _ => .pure _
  · exact Value.keeps_callMember h _ _ _

theorem Cache.keeps_dump (c : Cache) (key : String) (tree : Tree) :
    Keeps (c.dump below key tree) := by
  unfold Cache.dump
  split
  · exact .pure _
  · exact .pure _
  · exact .bind (CacheDirectory.keeps_dump _ _ _) fun _ => .pure _
  · exact .bind (Value.keeps_callMember h _ _ _) fun _ => .pure _

/-! ## Trees that objects describe, and loaders -/

theorem keeps_treeOf (source : String) (v : Value) : Keeps (treeOf below source v) :=
  Keeps.tolerance.treeOf h.congruent source v

theorem Loader.keeps_find (name : String) (l : Loader) : Keeps (l.find below name) :=
  Keeps.tolerance.find h.congruent name l fun _ _ => .bind .get fun _ => .liftFault _

end

/-! ## Templates -/

section

variable {below : Below} (h : below.Keeps)

include h

theorem keeps_treeFor (e : Engine) (source : Value) (className : String) (name : Value) :
    Keeps (treeFor below e source className name) := by
  unfold treeFor
  extract_lets fields parsed
  have hparsed : Keeps parsed := by
    unfold parsed
    split
    · exact keeps_parseSource _ _
    · exact .throw _
  split
  · exact .bind (keeps_logEvent _ _ _ _) fun _ => .bind hparsed fun _ => .pure _
  · refine .bind (Cache.keeps_load h _ _) fun v => ?_
    split
    · exact .bind (keeps_logEvent _ _ _ _) fun _ => .bind hparsed fun _ =>
        .bind (Cache.keeps_dump h _ _ _) fun _ => .bind (keeps_modifyEngine fun _ => rfl) fun _ =>
          .pure _
    · exact .pure _

theorem keeps_templateFor (e : Engine) (source : Value) (text key : String) (name : Value) :
    Keeps (templateFor below e source text key name) := by
  unfold templateFor
  split
  · exact .pure _
  · exact .bind (keeps_treeFor h _ _ _ _) fun _ =>
      .bind (keeps_makeTemplate _ _ _ _ (keeps_treeOf h _ _)) fun _ =>
        .bind (keeps_modifyEngine fun _ => rfl) fun _ => .pure _

theorem keeps_loadSource (source name : Value) : Keeps (loadSource below source name) :=
  .bind keeps_theEngine fun _ => .bind (.liftFault _) fun _ => .bind (keeps_askFor _ _) fun _ =>
    keeps_templateFor h _ _ _ _ _

theorem keeps_loadTemplate (name : String) : Keeps (loadTemplate below name) :=
  .bind keeps_theEngine fun _ => .bind (Loader.keeps_find h _ _) fun _ =>
    .bind (.liftFault _) fun _ => keeps_loadSource h _ _

theorem keeps_partialFor (logger : Logger) (name : String) (found : Option Found) :
    Keeps (partialFor below logger name found) := by
  cases found with
  | none => exact .bind (keeps_logEvent _ _ _ _) fun _ => .pure _
  | some found =>
    exact .bind (.liftFault _) fun _ => .bind (keeps_loadSource h _ _) fun _ => .pure _

theorem keeps_loadPartial? (name : String) : Keeps (loadPartial? below name) :=
  .bind keeps_theEngine fun _ => .bind (.attempt _ (Loader.keeps_find h _ _)) fun _ =>
    keeps_partialFor h _ _ _

end

end Mustache
