import Mustache.Proofs.Session.Events
import Mustache.Proofs.Tree.Shown
import Mustache.Render

/-!
# Errors show the right line

The scanner counts lines by newlines, and errors look the line of a tag up among the lines that are
shown. Both the errors for malformed templates and those for filters that cannot be called show the
line in which the tag begins, as long as no other line breaks stand up to there.

## Main definitions

* `Mustache.StopsAt` — the first of the filters of a tag that cannot be called.

## Main results

* `Mustache.StopsAt.renderNode_eq` — a tag with such a filter is not rendered.
* `Mustache.errors_show_line` — errors about the tags of a source.
-/

namespace Mustache

/-! ## Filters that cannot be called -/

section

variable {below : Below} {filter : String} {s s' : Session}

/-- **The first of some filters that cannot be called**: the value passes the filters in front of
it, and then its name is looked up, but it is not that of a callable. -/
inductive StopsAt (below : Below) (filter : String) (s' : Session) :
    Value → List String → Session → Prop
  | here {v f : Value} {filters : List String} {s : Session}
    (found : findName below filter s = .ok f s') (uncallable : f.isLambda = false) :
    StopsAt below filter s' v (filter :: filters) s
  | later {v f w : Value} {first : String} {filters : List String} {s s₁ s₂ : Session}
    (found : findName below first s = .ok f s₁) (callable : f.isLambda = true)
    (called : f.call below [v] s₁ = .ok w s₂) (rest : StopsAt below filter s' w filters s₂) :
    StopsAt below filter s' v (first :: filters) s

/-- A value does not pass a filter that cannot be called. -/
theorem StopsAt.applyFilters_eq {v : Value} {filters : List String}
    (h : StopsAt below filter s' v filters s) (site : FilterSite) :
    applyFilters below site v filters s = .error (.unrenderable (site.unknown filter)) s' := by
  induction h with
  | here found uncallable =>
    rw [applyFilters, bind_of_ok found, uncallable]
    rfl
  | later found callable called _ ih =>
    rw [applyFilters, bind_of_ok found, callable, ← ih]
    exact bind_of_ok called

/-- **A tag with a filter that cannot be called is not rendered.** The error is that of the filter,
at the place of the tag and with the source of the template. -/
theorem StopsAt.renderNode_eq {n : Node} {place : Place} {name : String} {filters : List String}
    (htag : n.sought? = some (place, name, filters)) {v : Value} {s₁ : Session}
    (hname : findName below name s = .ok v s₁) (h : StopsAt below filter s' v filters s₁)
    (t : Template) :
    renderNode below t n s =
      .error (.unrenderable
        (FilterSite.unknown ⟨name, filters, place, t.name, t.source⟩ filter)) s' := by
  have hfiltered : findFiltered below ⟨name, filters, place, t.name, t.source⟩ s =
      .error (.unrenderable
        (FilterSite.unknown ⟨name, filters, place, t.name, t.source⟩ filter)) s' := by
    rw [findFiltered, bind_of_ok hname]
    exact h.applyFilters_eq _
  cases n with
  | interpolation | block =>
    obtain ⟨rfl, rfl, rfl⟩ : _ ∧ _ ∧ _ := by simpa [Node.sought?] using htag
    exact bind_of_error hfiltered
  | _ => simp [Node.sought?] at htag

end

/-! ## What errors show -/

/-- **Errors about the tags of a source show the line of the tag.** An error of the scanner or the
parser is about a tag that the scanner finds, and so is the error with which rendering stops at a
filter that cannot be called, in a tag of the tree. Both tell the line and the column of the opening
delimiter. If no other line breaks than newlines stand up to the end of its line, both show this
line, with the tag at the column. -/
theorem errors_show_line {source : String} {name : Value} {d₀ : Delimiters} (hd₀ : d₀.IsPlain) :
    (∀ failure, parse source name d₀ = .error failure →
      ∃ e front d body, failure = .malformed e ∧ Finds d₀ .start source.toList front d body ∧
        Offends source d₀ front d body e.cause ∧
        e.line = some ((placeBehind front).line : Int) ∧
        e.column = some ((placeBehind front).column : Int) ∧
        (Text.BreaksPlainly (placeBehind front).line source.toList → e.Shows source front d)) ∧
    ∀ tree, parse source name d₀ = .ok tree → ∀ n place tagName filters,
      n.Within tree.body → n.sought? = some (place, tagName, filters) →
      ∃ front d body tag active, Finds d₀ .start source.toList front d body ∧
        readTag d body = .ok tag ∧
        splitFilters active (String.ofList tag.value) = some (tagName, filters) ∧
        ∀ (t : Template) (below : Below) v filter s s₁ s', t.source = source →
          findName below tagName s = .ok v s₁ → StopsAt below filter s' v filters s₁ →
          ∃ e, renderNode below t n s = .error (.unrenderable e) s' ∧
            e.problem = .unknownFilter filter ∧
            e.line = some ((placeBehind front).line : Int) ∧
            (Text.BreaksPlainly (placeBehind front).line source.toList →
              ∃ snippet, e.snippet = some snippet ∧ snippet.Shows source front d) := by
  have hlines (front : List Char) : (placeBehind front).line = front.count '\n' + 1 :=
    Nat.add_comm 1 _
  constructor
  · intro failure h
    obtain ⟨e, front, d, body, rfl, hfinds, hoffends, hline, hcolumn, hsource⟩ :=
      exists_offends_of_parse h
    exact ⟨e, front, d, body, rfl, hfinds, hoffends, hline, hcolumn, fun hplain =>
      hfinds.shows_of_place hd₀ (hlines front ▸ hplain) hsource hline hcolumn⟩
  · intro tree htree n place tagName filters hn htag
    obtain ⟨front, d, body, tag, active, hfinds, hread, hsplit, rfl⟩ := hn.exists_finds htree htag
    refine ⟨front, d, body, tag, active, hfinds, hread, hsplit, ?_⟩
    rintro t below v filter s s₁ s' rfl hname hstops
    refine ⟨_, hstops.renderNode_eq htag hname t, rfl, rfl, fun hplain =>
      ⟨_, ?_, hfinds.shows_around hd₀ (hlines front ▸ hplain)⟩⟩
    have hne : (t.source == "") = false := by
      rw [beq_eq_false_iff_ne]
      intro hempty
      have hopening := hfinds.eq_append
      simp [hempty, ((hfinds.isPlain hd₀).opening).1] at hopening
    simp only [FilterSite.unknown, hne, if_neg Bool.false_ne_true]

/-- Whether carriage returns stand only in front of newlines, and no other line breaks anywhere. -/
def Text.isPlainlyBroken (cs : List Char) : Bool :=
  (Text.fields '\n' cs).all fun line => (Text.withoutReturn line).all fun c => !Text.isBreak c

theorem Text.breaksPlainly_of_isPlainlyBroken {cs : List Char} (h : isPlainlyBroken cs = true)
    (n : Nat) : BreaksPlainly n cs := by
  simp only [isPlainlyBroken, List.all_eq_true, Bool.not_eq_true'] at h
  exact fun line hline => h line (List.mem_of_mem_take hline)

/-- Carriage returns in front of newlines do no harm: neither where a section is left open nor where
there is no such filter. -/
theorem errors_show_line_returns :
    (∃ e front d, parse "a\r\n\x7b\x7b#x\x7d\x7d" .null .usual = .error (.malformed e) ∧
      e.Shows "a\r\n\x7b\x7b#x\x7d\x7d" front d) ∧
    ∃ (t : Template) (n : Node) (s : Session) (e : Unrenderable) (snippet : Snippet)
      (front : List Char) (d : Delimiters),
      t.source = "\x7b\x7b%FILTERS\x7d\x7d\r\n\x7b\x7bx|f\x7d\x7d" ∧ n.Within t.tree.body ∧
      renderNode ground t n s = .error (.unrenderable e) s ∧ e.snippet = some snippet ∧
      snippet.Shows t.source front d := by
  have hsection : Text.isPlainlyBroken "a\r\n\x7b\x7b#x\x7d\x7d".toList = true := by
    decide +kernel
  have hfilter :
      Text.isPlainlyBroken "\x7b\x7b%FILTERS\x7d\x7d\r\n\x7b\x7bx|f\x7d\x7d".toList = true := by
    decide +kernel
  constructor
  · have hrefused : (parse "a\r\n\x7b\x7b#x\x7d\x7d" .null .usual).toOption.isSome = false := by
      decide +kernel
    cases hparse : parse "a\r\n\x7b\x7b#x\x7d\x7d" .null .usual with
    | ok tree => simp [hparse, Except.toOption] at hrefused
    | error failure =>
      obtain ⟨e, front, d, -, rfl, -, -, -, -, hshows⟩ :=
        (errors_show_line Delimiters.isPlain_usual).1 failure hparse
      exact ⟨e, front, d, rfl, hshows (Text.breaksPlainly_of_isPlainlyBroken hsection _)⟩
  · let pragma : Token := ⟨.pragma, "FILTERS", ⟨1, 0⟩, 0, 12, .usual, ""⟩
    let tag : Token := ⟨.interpolation, "x|f", ⟨2, 0⟩, 14, 21, .usual, ""⟩
    let n : Node := .interpolation ⟨2, 0⟩ "x" true ["f"] .usual
    have htokens : tokenize "\x7b\x7b%FILTERS\x7d\x7d\r\n\x7b\x7bx|f\x7d\x7d" .null .usual =
        .ok [pragma, tag] := eq_ok_of_toOption_eq_some (by decide +kernel)
    have hsplit : splitFilters true "x|f" = some ("x", ["f"]) :=
      splitFilters_of_fields (by decide) rfl rfl
    have hleaf : (Reading.mk tag true).leaf? = some n := by
      simp [Reading.leaf?, tag, hsplit, n]
    obtain ⟨tree, hparse, hbody⟩ :=
      exists_parse_iff.2 ⟨_, htokens, .leaf (n := .pragma ⟨1, 0⟩ "FILTERS") rfl (.leaf hleaf .nil)⟩
    have hn : n.Within tree.body := hbody ▸ .behind .here
    let t : Template := { (default : Template) with
      source := "\x7b\x7b%FILTERS\x7d\x7d\r\n\x7b\x7bx|f\x7d\x7d", tree }
    obtain ⟨front, d, -, -, -, -, -, -, hshows⟩ :=
      (errors_show_line Delimiters.isPlain_usual).2 tree hparse n ⟨2, 0⟩ "x" ["f"] hn rfl
    obtain ⟨e, hrender, -, -, hplain⟩ :=
      hshows t ground .missing "f" default default default rfl rfl (.here (f := .missing) rfl rfl)
    obtain ⟨snippet, hsnippet, hshown⟩ := hplain (Text.breaksPlainly_of_isPlainlyBroken hfilter _)
    exact ⟨t, n, default, e, snippet, front, d, rfl, hn, hrender, hsnippet, hshown⟩

end Mustache
