import ComponentViews.Build.Request
import ComponentViews.Proofs.Dictionaries
import ComponentViews.Proofs.ScriptLiterals

/-! The name of the environment in the code of a build. The module of the environment has it as
an escaped literal. Where it replaces a text it is only put between quotes, and is read back
as it was just if nothing in it needs an escape. -/

namespace ComponentViews

namespace Text.Script

/-- A character that may stand in a literal as it is. -/
def Bare (quote c : Char) : Prop := c ≠ quote ∧ c ≠ '\\' ∧ c ≠ '\n' ∧ c ≠ '\r'

theorem readBody_bare {quote : Char} {text : List Char} (bare : ∀ c ∈ text, Bare quote c) (following : List Char) :
    readBody quote (text ++ quote :: following) = some (codeUnits text, following) := by
  induction text with
  | nil => rw [List.nil_append, readBody, if_pos rfl]; rfl
  | cons c text ih =>
    obtain ⟨other, backslash, feed, carriage⟩ := bare c List.mem_cons_self
    rw [List.cons_append, readBody_plain other backslash feed carriage, ih fun d member => bare d (.tail _ member)]
    rfl

theorem codeUnits_append (left right : List Char) : codeUnits (left ++ right) = codeUnits left ++ codeUnits right :=
  List.flatMap_append

theorem length_pointUnits (point : Nat) : 1 ≤ (pointUnits point).length ∧ (pointUnits point).length ≤ 2 := by
  unfold pointUnits
  split <;> simp

theorem length_le_codeUnits (text : List Char) : text.length ≤ (codeUnits text).length := by
  induction text with
  | nil => exact Nat.le_refl 0
  | cons c text ih =>
    have first := (length_pointUnits c.toNat).1
    have whole : codeUnits (c :: text) = pointUnits c.toNat ++ codeUnits text := rfl
    rw [whole, List.length_append, List.length_cons]
    omega

theorem readHex_prefix (text : List Char) : ∃ used, text = used ++ (readHex text).2 := by
  induction text with
  | nil => exact ⟨[], rfl⟩
  | cons c rest ih =>
    unfold readHex
    split
    next digit _ =>
      obtain ⟨used, shape⟩ := ih
      exact ⟨c :: used, congrArg (c :: ·) shape⟩
    next => exact ⟨[], rfl⟩

theorem readPoint_prefix {text rest : List Char} {value : List Nat} (found : readPoint text = some (value, rest)) :
    (∃ used, text = used ++ rest) ∧ value.length ≤ 2 := by
  obtain ⟨digits, shape⟩ := readHex_prefix text
  unfold readPoint at found
  split at found
  next digit others after read =>
    rw [read] at shape
    split at found
    · cases found
      exact ⟨⟨digits ++ ['}'], by rw [shape, List.append_assoc]; rfl⟩, (length_pointUnits _).2⟩
    · cases found
  next => cases found

/-- What an escape stands for is no longer than the escape without its backslash. -/
theorem readEscape_prefix {text rest : List Char} {value : List Nat} (found : readEscape text = some (value, rest)) :
    ∃ used, text = used ++ rest ∧ value.length ≤ (codeUnits used).length := by
  have short : ∀ used : List Char, text = used ++ rest → value.length ≤ used.length →
      ∃ used, text = used ++ rest ∧ value.length ≤ (codeUnits used).length :=
    fun used shape fits => ⟨used, shape, fits.trans (length_le_codeUnits used)⟩
  unfold readEscape at found
  split at found
  · cases found
  next high low after =>
    obtain ⟨unit, -, same⟩ := Option.map_eq_some_iff.mp found
    cases same
    exact short ['x', high, low] rfl (by simp)
  next after =>
    obtain ⟨⟨used, shape⟩, small⟩ := readPoint_prefix found
    refine short ('u' :: '{' :: used) (by rw [shape]; rfl) ?_
    simp only [List.length_cons]
    omega
  next first second third fourth after _ =>
    obtain ⟨unit, -, same⟩ := Option.map_eq_some_iff.mp found
    cases same
    exact short ['u', first, second, third, fourth] rfl (by simp)
  next after =>
    cases found
    exact short ['\r', '\n'] rfl (by simp)
  next c after _ _ _ _ =>
    split at found
    · cases found
      exact short [c] rfl (by simp)
    split at found
    · cases found
      exact short [c] rfl (by simp)
    split at found
    · cases found
    · cases found
      have own : codeUnits [c] = pointUnits c.toNat := List.flatMap_singleton ..
      refine ⟨[c], rfl, ?_⟩
      rw [own]
      cases letterUnit? c with
      | none => exact Nat.le_refl _
      | some unit => exact (length_pointUnits c.toNat).1

/-- The value of a literal's rest is no longer than what is read, and just as long only where nothing is escaped. -/
theorem readBody_sound {quote : Char} {text rest : List Char} {value : List Nat}
    (found : readBody quote text = some (value, rest)) :
    ∃ body, text = body ++ quote :: rest ∧ value.length ≤ (codeUnits body).length ∧
      (value.length = (codeUnits body).length → ∀ c ∈ body, Bare quote c) := by
  induction text using readBody.induct quote generalizing value with
  | case1 => simp [readBody] at found
  | case2 following =>
    rw [readBody, if_pos rfl] at found
    cases found
    exact ⟨[], rfl, Nat.le_refl _, by simp⟩
  | case3 following first after read other ih =>
    rw [readBody_escaped other read] at found
    obtain ⟨⟨values, last⟩, later, same⟩ := Option.map_eq_some_iff.mp found
    cases same
    obtain ⟨used, shape, short⟩ := readEscape_prefix read
    obtain ⟨body, shape', short', -⟩ := ih later
    have whole : codeUnits ('\\' :: (used ++ body)) = pointUnits '\\'.toNat ++ (codeUnits used ++ codeUnits body) := by
      rw [← codeUnits_append]
      rfl
    have longer : (first ++ values).length < (codeUnits ('\\' :: (used ++ body))).length := by
      have one := (length_pointUnits '\\'.toNat).1
      rw [whole, List.length_append, List.length_append, List.length_append]
      omega
    refine ⟨'\\' :: (used ++ body), ?_, Nat.le_of_lt longer, fun same => absurd same (Nat.ne_of_lt longer)⟩
    rw [shape, shape', List.cons_append, List.append_assoc]
  | case4 following read other =>
    rw [readBody, if_neg other, if_pos rfl] at found
    split at found
    next found' => rw [read] at found'; cases found'
    next => cases found
  | case5 c following other backslash ends =>
    rw [readBody, if_neg other, if_neg backslash, if_pos ends] at found
    cases found
  | case6 c following other backslash inside ih =>
    obtain ⟨feed, carriage⟩ := not_or.mp inside
    rw [readBody_plain other backslash feed carriage] at found
    obtain ⟨⟨values, last⟩, later, same⟩ := Option.map_eq_some_iff.mp found
    cases same
    obtain ⟨body, shape, short, bare⟩ := ih later
    have whole : codeUnits (c :: body) = pointUnits c.toNat ++ codeUnits body := rfl
    refine ⟨c :: body, congrArg (c :: ·) shape, ?_, ?_⟩
    · rw [whole, List.length_append, List.length_append]
      omega
    · rw [whole, List.length_append, List.length_append]
      intro exact'
      refine List.forall_mem_cons.mpr ⟨⟨other, backslash, feed, carriage⟩, bare ?_⟩
      omega

/-- A text between two quotes is one literal with the text as its value if and only if nothing in it has to be escaped. -/
theorem readLiteral_quoted_iff {quote : Char} (quotes : quote = '"' ∨ quote = '\'') (text : List Char) :
    readLiteral (quote :: (text ++ [quote])) = some (codeUnits text, []) ↔ ∀ c ∈ text, Bare quote c := by
  rw [readLiteral, if_pos quotes]
  constructor
  · intro read
    obtain ⟨body, shape, -, bare⟩ := readBody_sound read
    obtain rfl := List.append_cancel_right shape
    exact bare rfl
  · intro bare
    exact readBody_bare bare []

end Text.Script

namespace Build
open Text.Script

namespace AppModules

/-- A text starts with the declaration of a constant by a literal of this value. -/
def Opens (text : List Char) (name : String) (value : List Nat) : Prop :=
  ∃ rest after, text = "export const ".toList ++ (name.toList ++ (" = ".toList ++ rest)) ∧
    readLiteral rest = some (value, ";\n".toList ++ after)

/-- A module declares a constant at the start of one of its lines. -/
def Declares (module : List Char) (name : String) (value : List Nat) : Prop :=
  ∃ before text, module = before ++ text ∧ (before = [] ∨ before.getLast? = some '\n') ∧ Opens text name value

variable {line text before rest : List Char} {name other value : String} {units : List Nat}

/-- The start of a line is that of the first one or lies behind it. -/
theorem before_or_behind (plain : '\n' ∉ line) (shape : line ++ '\n' :: text = before ++ rest)
    (start : before = [] ∨ before.getLast? = some '\n') :
    before = [] ∨ ∃ later, text = later ++ rest ∧ (later = [] ∨ later.getLast? = some '\n') := by
  refine start.imp_right fun ended => ?_
  obtain ⟨front, rfl⟩ := List.getLast?_eq_some_iff.mp ended
  rw [List.append_assoc, List.singleton_append] at shape
  rcases List.append_eq_append_iff.mp shape with ⟨between, rfl, behind⟩ | ⟨between, inside, behind⟩
  · rcases between with _ | ⟨c, between⟩
    · exact ⟨[], (List.cons.inj behind).2, .inl rfl⟩
    · have inner : text = between ++ '\n' :: rest := (List.cons.inj behind).2
      exact ⟨between ++ ['\n'], by rw [inner, List.append_assoc, List.singleton_append], .inr List.getLast?_concat⟩
  · rcases between with _ | ⟨c, between⟩
    · exact ⟨[], (List.cons.inj behind).2.symm, .inl rfl⟩
    · obtain ⟨rfl, -⟩ := List.cons.inj behind
      exact absurd (inside ▸ List.mem_append_right _ List.mem_cons_self) plain

theorem declares_line_iff (plain : '\n' ∉ line) :
    Declares (line ++ '\n' :: text) name units ↔ Opens (line ++ '\n' :: text) name units ∨ Declares text name units := by
  constructor
  · rintro ⟨before, rest, shape, start, opens⟩
    rcases before_or_behind plain shape start with rfl | ⟨later, shape', start'⟩
    · exact .inl (shape ▸ opens)
    · exact .inr ⟨later, rest, shape', start', opens⟩
  · rintro (opens | ⟨before, rest, rfl, start, opens⟩)
    · exact ⟨[], _, rfl, .inl rfl, opens⟩
    · refine ⟨line ++ '\n' :: before, rest, by simp, .inr ?_, opens⟩
      rcases start with rfl | ended
      · exact List.getLast?_concat
      · obtain ⟨front, rfl⟩ := List.getLast?_eq_some_iff.mp ended
        rw [← List.cons_append, ← List.append_assoc]
        exact List.getLast?_concat

theorem toList_constant (name value : String) : (constant name value).toList =
    ("export const ".toList ++ (name.toList ++ (" = ".toList ++ (value.toList ++ [';'])))) ++ ['\n'] := by
  have ending : ";\n".toList = [';', '\n'] := rfl
  unfold constant
  simp only [String.toList_append, ending, List.append_assoc, List.cons_append, List.nil_append]

theorem declares_constant_iff (plain : '\n' ∉ (other ++ value).toList) (text : List Char) :
    Declares ((constant other value).toList ++ text) name units ↔
      Opens ((constant other value).toList ++ text) name units ∨ Declares text name units := by
  rw [toList_constant, List.append_assoc, List.singleton_append]
  refine declares_line_iff ?_
  rw [String.toList_append, List.mem_append, not_or] at plain
  simp [plain]

theorem eq_of_opens (plain : ' ' ∉ other.toList) (plain' : ' ' ∉ name.toList)
    (opens : Opens ((constant other value).toList ++ text) name units) : other = name := by
  obtain ⟨rest, after, shape, -⟩ := opens
  have blank : " = ".toList = [' ', '=', ' '] := rfl
  have word : ∀ name : List Char, ' ' ∉ name → ∀ rest, (name ++ ' ' :: rest).takeWhile (· ≠ ' ') = name := by
    intro name plain rest
    have other : ∀ c ∈ name, decide (c ≠ ' ') = true := by
      intro c member
      refine decide_eq_true ?_
      rintro rfl
      exact plain member
    rw [List.takeWhile_append_of_pos other]
    simp
  rw [toList_constant, List.append_assoc, List.append_assoc, blank] at shape
  have names := congrArg (List.takeWhile (· ≠ ' ')) (List.append_cancel_left shape)
  simp only [List.append_assoc, List.cons_append] at names
  rw [word _ plain, word _ plain'] at names
  exact String.toList_inj.mp names

theorem opens_escaped_iff (env : String) (text : List Char) :
    Opens ((constant name ("\"" ++ escapeText env ++ "\"")).toList ++ text) name units ↔ units = codeUnits env.toList := by
  have quote : "\"".toList = ['"'] := rfl
  have shape : (constant name ("\"" ++ escapeText env ++ "\"")).toList ++ text = "export const ".toList ++ (name.toList ++
      (" = ".toList ++ '"' :: ((escapeText env).toList ++ '"' :: (";\n".toList ++ text)))) := by
    have ending : ";\n".toList = [';', '\n'] := rfl
    simp only [toList_constant, String.toList_append, quote, ending, List.append_assoc, List.cons_append, List.nil_append]
  have read := readLiteral_escaped env (";\n".toList ++ text)
  constructor
  · rintro ⟨rest, after, shape', read'⟩
    rw [shape] at shape'
    obtain rfl := List.append_cancel_left (List.append_cancel_left (List.append_cancel_left shape'))
    rw [read] at read'
    exact (congrArg Prod.fst (Option.some.inj read')).symm
  · rintro rfl
    exact ⟨_, _, shape, read⟩

/-- The flags of the module declare no name of the environment. -/
theorem declares_flag_iff {other : String} (apart : ' ' ∉ other.toList ∧ '\n' ∉ other.toList ∧ other ≠ "env") (value : Bool)
    (text : List Char) : Declares ((constant other (flag value)).toList ++ text) "env" units ↔ Declares text "env" units := by
  obtain ⟨blank, line, different⟩ := apart
  have plain : '\n' ∉ (other ++ flag value).toList := by cases value <;> simp [flag, line]
  rw [declares_constant_iff plain]
  exact or_iff_right fun opens => different (eq_of_opens blank (by decide) opens)

/-- The module of the environment declares the environment's name, once and as it is. -/
theorem declares_env_iff (env : String) (browser : Bool) :
    Declares (environmentModule env browser).toList "env" units ↔ units = codeUnits env.toList := by
  have plain : '\n' ∉ ("env" ++ ("\"" ++ escapeText env ++ "\"")).toList := by
    have escaped : '\n' ∉ (escapeText env).toList := by
      intro member
      rw [escapeText, String.toList_ofList] at member
      cases isLineEnd_escape member
    simp [escaped]
  have none : ¬ Declares [] "env" units := by
    rintro ⟨before, text, shape, -, rest, after, opens, -⟩
    rw [(List.append_eq_nil_iff.mp shape.symm).2] at opens
    cases opens
  unfold environmentModule
  simp only [String.toList_append, List.append_assoc]
  rw [declares_flag_iff (by decide), declares_flag_iff (by decide), declares_constant_iff plain, opens_escaped_iff,
    declares_flag_iff (by decide), declares_flag_iff (by decide), declares_flag_iff (by decide),
    ← List.append_nil (constant "production" _).toList, declares_flag_iff (by decide)]
  exact or_iff_left none

end AppModules

/-- The requests that a build with these options can make of the toolchain. -/
inductive Asks (options : Options) : Request → Prop where
  | server (entry : Path) : Asks options (.server options entry)
  | browser (entry : Path) (outputName : String) (legacy : Bool) : Asks options (.browser options entry outputName legacy)

variable {options : Options} {request : Request}

theorem Asks.exists_side (asks : Asks options request) : ∃ browser,
    request.replace = Request.replacements options browser ∧ request.virtualModules = AppModules.modules options.env browser := by
  cases asks with
  | server entry => exact ⟨false, rfl, rfl⟩
  | browser entry outputName legacy => exact ⟨true, rfl, rfl⟩

theorem get?_replacements (own : options.replace.get? Request.envKey = none) (browser : Bool) :
    (Request.replacements options browser).get? Request.envKey = some ("'" ++ options.env ++ "'") := by
  simp [Request.replacements, own, Dict.ofList]

theorem get?_modules (env : String) (browser : Bool) :
    (AppModules.modules env browser).get? AppModules.environmentId = some (AppModules.environmentModule env browser) := by
  have apart : AppModules.environmentId ≠ AppModules.globalId := by decide
  simp [AppModules.modules, Dict.ofList, apart]

/-- Unless it is configured otherwise, a request replaces the environment's variable by a text, and its module of the
environment declares the environment's name. The text is one literal with this name as its value if and only if nothing in
the name has to be escaped. -/
theorem environment_replaced_iff (own : options.replace.get? Request.envKey = none) (asks : Asks options request) :
    ∃ replacement module, request.replace.get? Request.envKey = some replacement ∧
      request.virtualModules.get? AppModules.environmentId = some module ∧
      (∀ value, AppModules.Declares module.toList "env" value ↔ value = codeUnits options.env.toList) ∧
      ((∃ value, AppModules.Declares module.toList "env" value ∧ readLiteral replacement.toList = some (value, [])) ↔
        ∀ c ∈ options.env.toList, Bare '\'' c) := by
  obtain ⟨browser, replaces, modules⟩ := asks.exists_side
  refine ⟨"'" ++ options.env ++ "'", AppModules.environmentModule options.env browser, ?_, ?_, ?_, ?_⟩
  · rw [replaces, get?_replacements own]
  · rw [modules, get?_modules]
  · intro value
    exact AppModules.declares_env_iff options.env browser
  · have quoted : ("'" ++ options.env ++ "'").toList = '\'' :: (options.env.toList ++ ['\'']) := by simp
    rw [quoted, ← readLiteral_quoted_iff (.inr rfl)]
    simp only [AppModules.declares_env_iff, exists_eq_left]

/-- Double quotes and separators of lines need no escape between single quotes. -/
theorem double_quoted_environment_is_replaced : (Options.forEnv "\"stage\"\u2028").replace.get? Request.envKey = none ∧
    Asks (.forEnv "\"stage\"\u2028") (.server (.forEnv "\"stage\"\u2028") { text := "/w.svelte" }) ∧
    ∃ replacement module,
      (Request.server (.forEnv "\"stage\"\u2028") { text := "/w.svelte" }).replace.get? Request.envKey = some replacement ∧
      (Request.server (.forEnv "\"stage\"\u2028") { text := "/w.svelte" }).virtualModules.get? AppModules.environmentId =
        some module ∧
      ∃ value, AppModules.Declares module.toList "env" value ∧ readLiteral replacement.toList = some (value, []) := by
  have asks : Asks (.forEnv "\"stage\"\u2028") (.server (.forEnv "\"stage\"\u2028") { text := "/w.svelte" }) := .server _
  obtain ⟨replacement, module, replaced, listed, -, agree⟩ := environment_replaced_iff rfl asks
  have bare : ∀ c ∈ "\"stage\"\u2028".toList, Bare '\'' c := by simp [Bare]
  exact ⟨rfl, asks, replacement, module, replaced, listed, agree.mpr bare⟩

/-- Behind a quote in the environment's name the literal has ended. -/
theorem quoted_environment_breaks_off : (Options.forEnv "it's").replace.get? Request.envKey = none ∧
    (Request.server (.forEnv "it's") { text := "/w.svelte" }).replace.get? Request.envKey = some "'it's'" ∧
    readLiteral "'it's'".toList = some (codeUnits "it".toList, "s'".toList) ∧
    codeUnits "it".toList ≠ codeUnits "it's".toList := by
  have own : (Options.forEnv "it's").replace.get? Request.envKey = none := rfl
  refine ⟨own, get?_replacements own false, ?_, by decide⟩
  have spelled : "'it's'".toList = '\'' :: ("it".toList ++ '\'' :: "s'".toList) := by decide
  rw [spelled, readLiteral, if_pos (.inr rfl)]
  exact readBody_bare (by simp [Bare]) _

end Build
end ComponentViews
