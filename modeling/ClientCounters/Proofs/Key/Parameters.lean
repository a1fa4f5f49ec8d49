/-
# Keys that ask for a parameter

A key that is a call of `getParameter` has the value of the first item of the query with that key,
as the query writes it.  Without such an item the request has no value for the call
(`parameters_decode`).
-/
import ClientCounters.Proofs.Http.Query
import ClientCounters.Proofs.Key.Concatenation

namespace ClientCounters.KeyExpression

open Http (Encodes FirstValue QueryItem View)

variable {κ : Type} [ComponentSource κ] {quote : Char} {name : String} {context : ResolutionContext}

/-- The key that asks for a parameter, with quotes of one kind around its name. -/
def parameterKey (quote : Char) (name : String) : String :=
  String.ofList ("@currentRequest.getParameter(".toList ++ quote :: (name.toList ++ [quote, ')']))

lemma spells_parameterKey (hquote : isQuote quote = true) (hname : quote ∉ name.toList) :
    Spells (.request (.parameter name)) (parameterKey quote name).toList := by
  have harg : IsArgument (RequestCall.parameter name).argument?
      (quote :: (name.toList ++ [quote])) := ⟨quote, hquote, hname, rfl⟩
  have hspells := Spells.request Text.allBlank_nil harg Text.allBlank_nil
  have hcall : "@currentRequest.getParameter(".toList =
      "@currentRequest.".toList ++ (RequestMethod.parameter.name.toList ++ ['(']) := by decide
  have hkey : (parameterKey quote name).toList = "@currentRequest.".toList ++
      (RequestMethod.parameter.name.toList ++
        '(' :: ([] ++ quote :: (name.toList ++ [quote]) ++ [] ++ [')'])) :=
    calc (parameterKey quote name).toList
      _ = "@currentRequest.getParameter(".toList ++ quote :: (name.toList ++ [quote, ')']) :=
        String.toList_ofList
      _ = "@currentRequest.".toList ++ (RequestMethod.parameter.name.toList ++ ['(']) ++
          quote :: (name.toList ++ [quote, ')']) := congrArg (· ++ _) hcall
      _ = _ := by simp only [List.append_assoc, List.cons_append, List.nil_append]
  rw [hkey]
  exact hspells

lemma resolve_parameterKey (hquote : isQuote quote = true) (hname : quote ∉ name.toList)
    (components : κ) : resolve (parameterKey quote name) context components =
      (match context.request.parameter name with
        | some s => .ok s
        | none => .error (.missingRequestValue ("getParameter('" ++ name ++ "')")),
        components) := by
  have htext : (RequestCall.parameter name).text = "getParameter('" ++ name ++ "')" := by
    have hopen : "getParameter" ++ "('" = "getParameter('" := by decide
    rw [← hopen]
    rfl
  have hresolve := resolve_of_spellsPadded (spells_parameterKey hquote hname).spellsPadded
    context components
  cases hvalue : context.request.parameter name <;>
    rw [hresolve, Term.evaluate, RequestCall.value?, hvalue]
  rw [htext]

/-- A key that asks for a parameter has the value that the request has for it; it has none exactly
if the request has none. -/
structure AsksParameter (quote : Char) (name : String) : Prop where
  value : ∀ (κ : Type) [ComponentSource κ] (context : ResolutionContext) (components : κ)
    (s : String),
    resolve (parameterKey quote name) context components = (.ok s, components) ↔
      context.request.parameter name = some s
  missing : ∀ (κ : Type) [ComponentSource κ] (context : ResolutionContext) (components : κ)
    (e : ResolutionError), resolve (parameterKey quote name) context components =
      (.error e, components) ↔ context.request.parameter name = none ∧
        e = .missingRequestValue ("getParameter('" ++ name ++ "')")

lemma asksParameter (hquote : isQuote quote = true) (hname : quote ∉ name.toList) :
    AsksParameter quote name where
  value κ _ context components s := by
    rw [resolve_parameterKey hquote hname]
    cases context.request.parameter name <;> simp
  missing κ _ context components e := by
    rw [resolve_parameterKey hquote hname]
    cases context.request.parameter name <;> simp [eq_comm]

/-- **Query parameters decode what was encoded.**  A query is written from some items, and every
query is.  Then each parameter has the value of the first item with its key, and none if there is no
such item.  A name with a separator in it, or a request without a query, has no value; a key that
asks for a parameter fares like the parameter. -/
theorem parameters_decode {pieces : List (List Char)} {items : List QueryItem} {query : String}
    {view : View} (hitems : Encodes pieces items) (hquery : query.toList = ['&'].intercalate pieces)
    (hview : view.query = some query) :
    Http.Reads view items ∧
    (∀ cs : List Char, ∃ pieces items, cs = ['&'].intercalate pieces ∧ Encodes pieces items) ∧
    (∀ (v : View) (name : String), '&' ∈ name.toList ∨ '=' ∈ name.toList →
      v.parameter name = none) ∧
    (∀ (v : View) (name : String), v.query = none → v.parameter name = none) ∧
    ∀ (quote : Char) (name : String), isQuote quote = true → quote ∉ name.toList →
      AsksParameter quote name :=
  ⟨Http.reads_of_encodes hitems hquery hview, Http.exists_encodes,
    fun _ _ => Http.parameter_of_separator, fun _ _ => Http.parameter_of_no_query,
    fun _ _ => asksParameter⟩

/-- An empty piece in front, an empty key with a value that begins with the separator, a key alone
before a pair with the same key, and two signs in a row. -/
theorem parameters_decode_of_repeated_key :
    let items : List QueryItem := [.pair "" "=x", .flag "q", .pair "a" "1=2", .pair "q" "later"]
    let view : View := .ofTexts [] "GET" "/" (some "&==x&q&&a=1=2&q=later") none
    (∃ pieces, Encodes pieces items ∧
      "&==x&q&&a=1=2&q=later".toList = ['&'].intercalate pieces) ∧
    view.query = some "&==x&q&&a=1=2&q=later" ∧ Http.Reads view items ∧
    view.parameter "" = some "=x" ∧ view.parameter "q" = some "" ∧
    view.parameter "a" = some "1=2" ∧ view.parameter "b" = none ∧
    view.parameter "a=1" = none ∧ AsksParameter '"' "a='1'" := by
  intro items view
  have hitems : Encodes
      [[], "==x".toList, "q".toList, [], "a=1=2".toList, "q=later".toList] items := by
    refine .empty (.item (i := .pair "" "=x") ?_ (.item (i := .flag "q") ?_ (.empty
      (.item (i := .pair "a" "1=2") ?_ (.item (i := .pair "q" "later") ?_ .nil))))) <;>
        exact ⟨by decide, by decide, by decide, by decide⟩
  have hquery : "&==x&q&&a=1=2&q=later".toList = ['&'].intercalate
      [[], "==x".toList, "q".toList, [], "a=1=2".toList, "q=later".toList] := by decide
  have hview : view.query = some "&==x&q&&a=1=2&q=later" := rfl
  obtain ⟨hreads, -, hseparator, -, hasks⟩ := parameters_decode hitems hquery hview
  refine ⟨⟨_, hitems, hquery⟩, hview, hreads, ?_, ?_, ?_, ?_, ?_, ?_⟩
  · exact (hreads.found _ _).2 ⟨[], _, _, rfl, rfl, rfl, nofun⟩
  · exact (hreads.found _ _).2 ⟨[.pair "" "=x"], _, _, rfl, rfl, rfl, by simp [QueryItem.key]⟩
  · exact (hreads.found _ _).2
      ⟨[.pair "" "=x", .flag "q"], _, _, rfl, rfl, rfl, by simp [QueryItem.key]⟩
  · exact (hreads.missing _).2 (by simp [items, QueryItem.key])
  · exact hseparator _ _ (.inr (by decide))
  · exact hasks _ _ rfl (by decide)

end ClientCounters.KeyExpression
