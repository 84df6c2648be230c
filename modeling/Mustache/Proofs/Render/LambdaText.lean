import Mustache.Proofs.Render.Moved
import Mustache.Proofs.Session.Texts
import Mustache.Proofs.Token.ChangeTag

/-!
# Texts of lambdas and the delimiters of the caller

The text that a lambda returns is read under the delimiters that are in effect where the lambda is
called. It is put behind a line that brings these into effect, and loaded like any other source.
This module shows that the detour makes no difference: the template renders to what the text
renders to that is read under these delimiters from the start.

## Main definitions

* `Mustache.Delimiters.InEffect` — a pair that is in effect at a tag of a template.
* `Mustache.Delimiters.leadNodes` — the nodes of the line in front of the text.

## Main results

* `Mustache.tokenize_lambdaSource_iff` — the tokens behind the line.
* `Mustache.exists_parse_lambdaSource` — the tree behind the line.
* `Mustache.loadText_reads_under` — the text of a lambda is read under the delimiters of the caller.
-/

namespace Mustache

/-! ## Pairs in effect -/

/-- A pair of delimiters that is in effect at a tag of a template. -/
def Delimiters.InEffect (d : Delimiters) : Prop :=
  ∃ source name tokens, tokenize source name .usual = .ok tokens ∧
    ∃ t ∈ tokens, t.kind ≠ .text ∧ t.delims = d

theorem Delimiters.InEffect.written {d : Delimiters} (h : d.InEffect) : d.Written := by
  obtain ⟨source, name, tokens, htokens, t, ht, -, rfl⟩ := h
  exact (tokenize_eq_ok_iff.1 htokens).written Delimiters.written_usual t ht

/-- A text behind the line that brings a pair into effect. -/
theorem toList_lambdaSource (text : String) (d : Delimiters) :
    (lambdaSource text d.changeTag?).toList = d.lead ++ text.toList := by
  unfold lambdaSource Delimiters.lead
  cases d.changeTag? with
  | none => rfl
  | some tag => simp

/-- **The tokens of a text behind the line that brings a pair into effect** are those of the line,
and then those that the text has on its own under this pair, some characters and lines further
on. -/
theorem tokenize_lambdaSource_iff {d : Delimiters} (hd : d.Written) {text : String}
    {name : Value} (name' : Value) {tokens : List Token} :
    tokenize (lambdaSource text d.changeTag?) name .usual = .ok tokens ↔
      ∃ rest, tokenize text name' d = .ok rest ∧
        tokens = d.leadTokens ++ rest.map (Token.shift d.lead.length d.leadLines) := by
  simp only [tokenize_eq_ok_iff, toList_lambdaSource, scanned_lead_append_iff hd]

/-! ## The tree behind the line -/

/-- The nodes of the line that brings the pair into effect. -/
def Delimiters.leadNodes (d : Delimiters) : List Node :=
  if d = usual then [] else [.delimiterChange Position.start.place d]

/-- The tokens of the line stand for its nodes, whatever follows. -/
theorem reads_leadTokens_append_iff {d : Delimiters} (hd : d.Written) {tokens : List Token}
    {ns : List Node} : Reads false (d.leadTokens ++ tokens) ns ↔
      ∃ ms, Reads false tokens ms ∧ ns = d.leadNodes ++ ms := by
  by_cases hother : d = .usual
  · simp [Delimiters.leadTokens, Delimiters.leadNodes, hother]
  · obtain ⟨hplain, -, -⟩ := (Delimiters.written_iff.1 hd).resolve_left hother
    have hleaf : (Reading.mk ⟨.delimiterChange, String.ofList d.content, Position.start.place, 0,
        d.lead.length - 1, .usual, ""⟩ false).leaf? =
        some (.delimiterChange Position.start.place d) := by
      have hwords : Text.words d.content = [d.opening.toList, d.closing.toList] :=
        Text.words_pair hplain.opening hplain.closing
      simp [Reading.leaf?, hwords]
    simp only [Delimiters.leadTokens, Delimiters.leadNodes, if_neg hother, List.singleton_append]
    constructor
    · intro h
      cases h with
      | leaf node after =>
        obtain rfl := Option.some.inj (hleaf.symm.trans node)
        exact ⟨_, after, rfl⟩
      | block opens => rcases opens with hk | hk <;> simp at hk
    · rintro ⟨ms, hms, rfl⟩
      exact .leaf hleaf hms

/-- A token of a stretch that stands elsewhere, seen from there. -/
theorem Token.Moved.symm {length i j : Nat} {t t' : Token} (h : t.Moved length i j t') :
    t'.Moved length j i t := by
  obtain ⟨u, hu, hstart, hstart'⟩ := h.start
  obtain ⟨v, hstop, hstop'⟩ := h.stop
  exact ⟨h.kind.symm, h.value.symm, h.delims.symm, h.indent.symm, ⟨u, hu, hstart', hstart⟩,
    ⟨v, hstop', hstop⟩⟩

section

variable {d : Delimiters} (hd : d.Written) {text : String} {name : Value}

include hd

/-- The tokens of a text stand in the text behind the line as well. -/
theorem moved_of_tokenize {tokens : List Token} (h : tokenize text name d = .ok tokens) (k l : Nat) :
    List.Forall₂ (Token.Moved text.toList.length 0 k) tokens (tokens.map (Token.shift k l)) := by
  have hbounds := ((tokenize_eq_ok_iff.1 h).ordered rfl hd.isPlain).1
  rw [List.forall₂_map_right_iff, List.forall₂_same]
  intro t ht
  obtain ⟨-, hfits⟩ := hbounds t ht
  exact Token.moved_shift (Nat.le_of_lt (Nat.lt_of_lt_of_le hfits.start_lt_stop hfits.stop_le)) k l

/-- **A text that can be parsed under a pair can be parsed behind the line** that brings the pair
into effect, and its nodes there are alike. -/
theorem exists_parse_lambdaSource {tree : Tree} (h : parse text name d = .ok tree)
    (name' : Value) : ∃ tree' ms, parse (lambdaSource text d.changeTag?) name' .usual = .ok tree' ∧
      tree'.body = d.leadNodes ++ ms ∧
        AllAlike text (lambdaSource text d.changeTag?) tree.body ms := by
  obtain ⟨tokens, htokens, hreads⟩ := exists_parse_iff.1 ⟨tree, h, rfl⟩
  have hmoved : List.Forall₂ (Token.Moved text.toList.length "".toList.length
      (String.ofList d.lead).toList.length) tokens
      (tokens.map (Token.shift d.lead.length d.leadLines)) := by
    rw [String.toList_ofList (l := d.lead)]
    exact moved_of_tokenize hd htokens _ _
  have hsource : lambdaSource text d.changeTag? = String.ofList d.lead ++ text ++ "" := by
    rw [← String.toList_inj, toList_lambdaSource]
    simp
  obtain ⟨ms, hms, halike⟩ : ∃ ms,
      Reads false (tokens.map (Token.shift d.lead.length d.leadLines)) ms ∧
        AllAlike ("" ++ text ++ "") (String.ofList d.lead ++ text ++ "") tree.body ms :=
    hreads.moved hmoved
  obtain ⟨tree', htree', hbody⟩ : ∃ tree',
      parse (lambdaSource text d.changeTag?) name' .usual = .ok tree' ∧
        tree'.body = d.leadNodes ++ ms :=
    exists_parse_iff.2 ⟨_, (tokenize_lambdaSource_iff hd name).2 ⟨tokens, htokens, rfl⟩,
      (reads_leadTokens_append_iff hd).2 ⟨ms, hms, rfl⟩⟩
  refine ⟨tree', ms, htree', hbody, ?_⟩
  rw [hsource]
  simpa using halike

/-- A text that can be parsed behind the line can be parsed under the pair. -/
theorem exists_parse_of_lambdaSource {tree' : Tree} {name' : Value}
    (h : parse (lambdaSource text d.changeTag?) name' .usual = .ok tree') :
    ∃ tree, parse text name d = .ok tree := by
  obtain ⟨tokens', htokens', hreads⟩ := exists_parse_iff.1 ⟨tree', h, rfl⟩
  obtain ⟨tokens, htokens, rfl⟩ := (tokenize_lambdaSource_iff hd name).1 htokens'
  obtain ⟨ms, hms, -⟩ := (reads_leadTokens_append_iff hd).1 hreads
  have hmoved : List.Forall₂ (Token.Moved text.toList.length
      (String.ofList d.lead).toList.length "".toList.length)
      (tokens.map (Token.shift d.lead.length d.leadLines)) tokens := by
    rw [String.toList_ofList (l := d.lead)]
    exact (moved_of_tokenize hd htokens _ _).flip.imp fun _ _ hback => Token.Moved.symm hback
  obtain ⟨ns, hns, -⟩ : ∃ ns, Reads false tokens ns ∧
      AllAlike (String.ofList d.lead ++ text ++ "") ("" ++ text ++ "") ms ns := hms.moved hmoved
  obtain ⟨tree, htree, -⟩ := exists_parse_iff.2 ⟨tokens, htokens, hns⟩
  exact ⟨tree, htree⟩

end

/-! ## Rendering -/

/-- A section of a lambda is rendered to what the template of its answer renders to. -/
theorem renderSection_of_isLambda {below : Below} {t : Template} {head : Section}
    (hinverted : head.inverted = false) {f : Value} (hlambda : f.isLambda = true)
    {s s₁ s₂ s₃ s₄ : Session}
    (hfind : findFiltered below ⟨head.name, head.filters, head.place, t.name, t.source⟩ s =
      .ok f s₁)
    {e : Engine} (hengine : engineOf t s₁ = .ok e s₁) {answer : String}
    (hcall : f.callLambda below [.text (head.rawBody t.source),
      .helper s₁.nextId s₁.frames.length head.delims.changeTag?]
      { s₁ with nextId := s₁.nextId + 1 } = .ok (.text answer) s₂)
    {loaded : Template} (hload : loadText answer head.delims.changeTag? s₂ = .ok loaded s₃)
    {out : String} (hrender : below.render loaded s₃ = .ok out s₄) (body : Action Output) :
    renderSection below t head body s = .ok (some out) s₄ := by
  have hlambdaRun : renderLambda below t f (head.rawBody t.source) head.delims s₁ = .ok out s₄ :=
    bind_eq_ok_iff.2 ⟨e, s₁, hengine, bind_eq_ok_iff.2 ⟨s₁, s₁, rfl,
      bind_eq_ok_iff.2 ⟨s₁.nextId, _, rfl, bind_eq_ok_iff.2 ⟨_, s₂, hcall,
        bind_eq_ok_iff.2 ⟨_, s₂, rfl, bind_eq_ok_iff.2 ⟨loaded, s₃, hload, hrender⟩⟩⟩⟩⟩⟩
  refine bind_eq_ok_iff.2 ⟨f, s₁, hfind, ?_⟩
  rw [hinverted, if_neg Bool.false_ne_true, if_pos hlambda]
  exact bind_eq_ok_iff.2 ⟨out, s₄, hlambdaRun, rfl⟩

/-- The line in front of the text is rendered to nothing. -/
theorem renderNodes_leadNodes_append (below : Below) (t : Template) (d : Delimiters)
    (ns : List Node) (s : Session) :
    renderNodes below t (d.leadNodes ++ ns) s = renderNodes below t ns s := by
  unfold Delimiters.leadNodes
  split
  · rfl
  · show (renderNodes below t ns >>= fun others => pure (Output.empty.append others)) s = _
    simp

/-- **The text of a lambda is read under the delimiters of the caller.** Let a pair be in effect at
a tag of a template. Then the source that is loaded for a text has the tokens of the line in front
of it, and behind these the tokens that the text has under this pair, further on by the length of
the line and by one line. It is loaded just in case the text can be parsed under this pair; and
then it renders to what the template of this parse renders to, wherever both are rendered.

**Proof sketch.** The first equals sign behind the one that opens the delimiter change is the one
that closes it, as no delimiter holds one, and between them stand two words. Nothing else is on the
line, so that it is dropped, and the scanner meets the text at the start of a line. -/
theorem loadText_reads_under {d : Delimiters} (hd : d.InEffect) {e : Engine} {s : Session}
    (hengine : s.engine = some e) (hserves : e.logger.Serves s.levels) (text : String)
    (hholds : e.HoldsAt (lambdaSource text d.changeTag?)) (name : Value) :
    (∀ tokens, tokenize (lambdaSource text d.changeTag?) name .usual = .ok tokens ↔
      ∃ rest, tokenize text name d = .ok rest ∧
        tokens = d.leadTokens ++ rest.map (Token.shift d.lead.length d.leadLines)) ∧
    ((∃ t s', loadText text d.changeTag? s = .ok t s') ↔ ∃ tree, parse text name d = .ok tree) ∧
    ∀ t s' u, loadText text d.changeTag? s = .ok t s' → parse text name d = .ok u.tree →
      u.source = text → t.Sibling u →
        t.IsOf e (lambdaSource text d.changeTag?) ∧ ∀ below r r' out,
          renderBody below t r = .ok out r' ↔ renderBody below u r = .ok out r' := by
  have hwritten := hd.written
  -- What is loaded is the template of the source, or the fault of its parse.
  have hload (t : Template) (s' : Session) (h : loadText text d.changeTag? s = .ok t s') :
      t.IsOf e (lambdaSource text d.changeTag?) := by
    cases hparse : parse (lambdaSource text d.changeTag?) .null .usual with
    | error failure =>
      rw [loadText_of_error hengine hholds hparse] at h
      simp at h
    | ok tree =>
      obtain ⟨t', lambdas, records, nextTemplate, hrun, ht', -⟩ :=
        loadText_of_parse hengine hholds hserves hparse
      obtain ⟨rfl, -⟩ := EStateM.Result.ok.inj (hrun.symm.trans h)
      exact ht'
  refine ⟨fun tokens => tokenize_lambdaSource_iff hwritten name, ⟨?_, ?_⟩, ?_⟩
  · rintro ⟨t, s', h⟩
    exact exists_parse_of_lambdaSource hwritten (hload t s' h).tree
  · rintro ⟨tree, htree⟩
    obtain ⟨tree', -, htree', -⟩ := exists_parse_lambdaSource hwritten htree .null
    obtain ⟨t, lambdas, records, nextTemplate, hrun, -⟩ :=
      loadText_of_parse hengine hholds hserves htree'
    exact ⟨t, _, hrun⟩
  · intro t s' u h hparse hsource hsibling
    have ht := hload t s' h
    refine ⟨ht, fun below r r' out => ?_⟩
    obtain ⟨tree', ms, htree', hbody, halike⟩ := exists_parse_lambdaSource hwritten hparse .null
    have htree : t.tree = tree' := Except.ok.inj (ht.tree.symm.trans htree')
    have hsymm := halike.symm
    rw [← ht.source, ← hsource] at hsymm
    rw [renderBody_eq_ok_iff, renderBody_eq_ok_iff, htree, hbody, renderNodes_leadNodes_append]
    exact renderNodes_eq_ok_iff_of_alike below hsibling hsymm

/-- The pair that a delimiter change may bring into effect in the middle of a template. -/
def Delimiters.angled : Delimiters := ⟨"<%", "%>"⟩

/-- An engine that has not compiled anything. -/
def Engine.unused : Engine := { (default : Engine) with logger := .own }

/-- An interpolation behind the change is in these delimiters. -/
theorem Delimiters.inEffect_angled : angled.InEffect := by
  obtain ⟨tokens, htokens⟩ := exists_eq_ok_of_isSome_toOption
    (x := tokenize "\x7b\x7b=<% %>=\x7d\x7d<%a%>" .null .usual) (by decide +kernel)
  have hfound : ((tokenize "\x7b\x7b=<% %>=\x7d\x7d<%a%>" .null .usual).toOption.any
      fun ts => ts.any fun t => t.kind != .text && t.delims == .angled) = true := by
    decide +kernel
  rw [htokens] at hfound
  exact ⟨_, _, tokens, htokens, by simpa [Except.toOption] using hfound⟩

/-- The text of an interpolation is loaded under the delimiters that stand in it. -/
theorem loadText_reads_under_angled : Delimiters.angled.InEffect ∧ ∃ t s',
    loadText "<%a%>" Delimiters.angled.changeTag?
      { (default : Session) with engine := some .unused } = .ok t s' ∧
        t.source = "\x7b\x7b=<% %>=\x7d\x7d\n<%a%>" := by
  have hserves : Engine.unused.logger.Serves (default : Session).levels :=
    Logger.serves_of_adapters_eq_nil rfl _
  have hspec := loadText_reads_under Delimiters.inEffect_angled
    (s := { (default : Session) with engine := some .unused }) rfl hserves "<%a%>"
    (Engine.holdsAt_forget .unused _) .null
  obtain ⟨tree, htree⟩ := exists_eq_ok_of_isSome_toOption
    (x := parse "<%a%>" .null .angled) (by decide +kernel)
  obtain ⟨t, s', ht⟩ := hspec.2.1.2 ⟨tree, htree⟩
  let u : Template := { t with source := "<%a%>", tree }
  exact ⟨Delimiters.inEffect_angled, t, s', ht, (hspec.2.2 t s' u ht htree rfl ⟨rfl, rfl⟩).1.source⟩

/-- An engine of which the logger refuses the events that it takes. -/
def Engine.refusing : Engine := { unused with logger := .refusing }

/-- A session with this engine, in which its logger takes all events. -/
def Session.refusing : Session :=
  { (default : Session) with engine := some .refusing, levels := [("moustache", .debug)] }

/-- A text that can be parsed is not loaded if the logger refuses the event of compiling it. -/
theorem exists_loadText_refused : Delimiters.angled.InEffect ∧
    (∃ tree, parse "<%a%>" .null .angled = .ok tree) ∧
      ∃ e s', loadText "<%a%>" Delimiters.angled.changeTag? .refusing = .error e s' := by
  have htree : (parse "<%a%>" .null .angled).toOption.isSome = true := by decide +kernel
  exact ⟨Delimiters.inEffect_angled, exists_eq_ok_of_isSome_toOption htree,
    exists_eq_error_of_isOk (by decide +kernel)⟩

end Mustache
