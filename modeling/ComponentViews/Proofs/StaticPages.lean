import ComponentViews.Proofs.RenderProvenance

/-! Pages that no client takes over. They are the template without its state and scripts, so two
of them differ in nothing that the calls bring for a client, nor in the scripts of the manifest. -/

namespace ComponentViews

namespace Page

/-- The placeholders for what a page carries for its client. -/
def clientNames : List String := ["globalProps", "globalStore", "props", "script", "scriptModern", "scriptLegacy"]

/-- A piece with nothing in the place of state and scripts, and a text that denies the client. -/
def Piece.settled : Piece → List Piece
  | .literal value => [.literal value]
  | .placeholder name =>
    if name ∈ clientNames then [] else if name = "hydratable" then Template.literal "false" else [.placeholder name]

/-- The template for pages without a client. -/
def Template.settled (template : Template) : Template where
  pieces := template.pieces.flatMap Piece.settled
  html_mem := List.mem_flatMap.mpr ⟨.html, template.html_mem, by decide⟩

/-- All that a settled template shows of its values. -/
structure Data.ShowsAs (left right : Data) : Prop where
  head : left.head = right.head
  style : left.style = right.style
  html : left.html = right.html

theorem value?_staticData (site : Site) (key : String) (output : Render.Output) (collected name : String) :
    (name ∈ clientNames → (site.staticData key output collected).value? name = some "") ∧
      (site.staticData key output collected).value? "hydratable" = some "false" := by
  refine ⟨fun listed => ?_, rfl⟩
  simp only [clientNames, List.mem_cons, List.not_mem_nil, or_false] at listed
  rcases listed with rfl | rfl | rfl | rfl | rfl | rfl <;> rfl

theorem value?_eq_of_showsAs {left right : Data} (alike : left.ShowsAs right) {name : String} (kept : name ∉ clientNames)
    (kept' : name ≠ "hydratable") : left.value? name = right.value? name := by
  unfold Data.value?
  split <;> simp_all [clientNames, alike.head, alike.style, alike.html]

/-- Static values fill a piece as any others with the same markup fill what has settled of it. -/
theorem fill_staticData {site : Site} {key : String} {output : Render.Output} {collected : String} {data : Data}
    (alike : (site.staticData key output collected).ShowsAs data) (piece : Piece) :
    Template.fill (site.staticData key output collected) piece = piece.settled.flatMap (Template.fill data) := by
  cases piece with
  | literal value => rfl
  | placeholder name =>
    obtain ⟨emptied, denied⟩ := value?_staticData site key output collected name
    simp only [Piece.settled]
    split
    next listed => simp [Template.fill, emptied listed]
    next kept =>
      split
      next named =>
        subst named
        rw [Template.fill, denied]
        rfl
      next kept' => simp [Template.fill, value?_eq_of_showsAs alike kept kept']

theorem render_staticData {site : Site} {key : String} {output : Render.Output} {collected : String} {data : Data}
    (template : Template) (alike : (site.staticData key output collected).ShowsAs data) :
    template.render (site.staticData key output collected) = template.settled.render data := by
  simp only [Template.render, Template.settled, List.flatMap_assoc]
  congr 2
  exact funext (fill_staticData alike)

end Page

namespace Engine
open Wrapper (Store)

/-- The template that a call is filled into, its own or the installed one. -/
def templateFor (engine : Engine) (call : Call) : Except ViewError Page.Template :=
  match call.options.template with
  | none => .ok engine.template
  | some source => (Page.Template.parse source).mapError .template

theorem page_eq_map (engine : Engine) (call : Call) (view : Path) (collected : String) (output : Render.Output) :
    engine.page call view collected output = (engine.templateFor call).map fun template =>
      template.render (engine.site.data (engine.key view) output collected (call.context engine.globalAssets)
        (call.buildOptions engine.defaults).hydratable) := by
  unfold page templateFor
  cases call.options.template with
  | none => rfl
  | some source => cases (Page.Template.parse source).mapError ViewError.template <;> rfl

/-- What was settled when the engine was installed, which no request changes. -/
structure SameInstallation (before after : Engine) : Prop where
  config : after.config = before.config
  roots : after.roots = before.roots
  defaults : after.defaults = before.defaults
  site : after.site = before.site
  template : after.template = before.template

theorem SameInstallation.trans {first middle last : Engine} (early : SameInstallation first middle)
    (late : SameInstallation middle last) : SameInstallation first last where
  config := late.config.trans early.config
  roots := late.roots.trans early.roots
  defaults := late.defaults.trans early.defaults
  site := late.site.trans early.site
  template := late.template.trans early.template

theorem SameInstallation.page {before after : Engine} (same : SameInstallation before after) (call : Call) (view : Path)
    (collected : String) (output : Render.Output) :
    after.page call view collected output = before.page call view collected output := by
  simp only [Engine.page, key, globalAssets, same.roots, same.defaults, same.site, same.template]

theorem serving_installation (collaborators : Compile.Collaborators) (token : Nat → String) (phase : Rendering ⊕ Clearing)
    (engine : Engine) : SameInstallation engine ((serving collaborators token).step phase engine).2 := by
  have same : SameInstallation engine engine := ⟨rfl, rfl, rfl, rfl, rfl⟩
  cases phase with
  | inl phase =>
    rw [serving, Activity.either_step_inl]
    change SameInstallation engine (phase.step collaborators token engine).2
    cases phase with
    | looking call candidates =>
      cases candidates with
      | nil => exact same
      | cons candidate rest =>
        simp only [Rendering.step]
        split
        · exact same
        · exact same
    | wrapping call view phase =>
      rw [wrapping_engine]
      exact ⟨rfl, rfl, rfl, rfl, rfl⟩
    | compiling call view wrapper phase =>
      rw [compiling_engine]
      exact ⟨rfl, rfl, rfl, rfl, rfl⟩
    | rendering call view wrapper compiled =>
      simp only [Rendering.step]
      split
      · exact ⟨rfl, rfl, rfl, rfl, rfl⟩
      · exact ⟨rfl, rfl, rfl, rfl, rfl⟩
    | templating call view collected output => exact same
  | inr phase =>
    rw [serving, Activity.either_step_inr]
    change SameInstallation engine (phase.step engine).2
    cases phase with
    | resetting phase =>
      rw [resetting_engine]
      exact ⟨rfl, rfl, rfl, rfl, rfl⟩
    | forgetting => exact ⟨rfl, rfl, rfl, rfl, rfl⟩

/-- A step that ends a call with a page fills the template. -/
theorem eq_templating_of_ok {collaborators : Compile.Collaborators} {token : Nat → String} {phase : Rendering}
    {engine : Engine} {body : String} (ended : (phase.step collaborators token engine).1 = .finished (.ok body)) :
    ∃ call view collected output, phase = .templating call view collected output ∧
      engine.page call view collected output = .ok body := by
  cases phase with
  | looking call candidates => cases candidates <;> simp only [Rendering.step] at ended <;> grind
  | wrapping call view phase => simp only [Rendering.step] at ended; grind
  | compiling call view wrapper phase => simp only [Rendering.step] at ended; grind
  | rendering call view wrapper compiled => simp only [Rendering.step] at ended; grind
  | templating call view collected output => exact ⟨call, view, collected, output, rfl, Progress.finished.inj ended⟩

def Rendering.call : Rendering → Call
  | .looking call _ => call
  | .wrapping call _ _ => call
  | .compiling call _ _ _ => call
  | .rendering call _ _ _ => call
  | .templating call _ _ _ => call

theorem call_step {collaborators : Compile.Collaborators} {token : Nat → String} {phase next : Rendering} {engine : Engine}
    (moved : (phase.step collaborators token engine).1 = .running next) : next.call = phase.call := by
  cases phase with
  | looking call candidates => cases candidates <;> simp only [Rendering.step] at moved <;> grind [Rendering.call]
  | wrapping call view phase => simp only [Rendering.step] at moved; grind [Rendering.call]
  | compiling call view wrapper phase => simp only [Rendering.step] at moved; grind [Rendering.call]
  | rendering call view wrapper compiled => simp only [Rendering.step] at moved; grind [Rendering.call]
  | templating call view collected output => cases moved

/-- An engine with its collaborators, and requests to it that step in the order of a schedule. -/
structure Service where
  collaborators : Compile.Collaborators
  token : Nat → String
  engine : Engine
  requests : List Request
  schedule : List Nat

namespace Service

/-- The steps that are taken, each by the request that takes it and the engine that it finds. -/
def trace (service : Service) : List (Nat × (Rendering ⊕ Clearing) × Engine) :=
  (serving service.collaborators service.token).trace service.schedule (requested service.engine service.requests)

/-- How far the requests come. -/
def calls (service : Service) : List (Progress (Rendering ⊕ Clearing) Answer) :=
  (outcome service.collaborators service.token service.engine service.requests service.schedule).1

/-- A request is answered with a page. -/
def Sends (service : Service) (caller : Nat) (body : String) : Prop :=
  service.calls[caller]? = some (.finished (.inl (.ok body)))

/-- A call fills the template for a view with what its component has rendered and the styles collected for it. -/
def Fills (service : Service) (caller : Nat) (call : Call) (view : Path) (collected : String) (output : Render.Output) :
    Prop :=
  ∃ state, (caller, .inl (.templating call view collected output), state) ∈ service.trace

end Service

/-- A request asks for a call to be rendered. -/
def Asks (requests : List Request) (caller : Nat) (call : Call) : Prop :=
  ∃ candidates, requests[caller]? = some (.render call candidates)

/-- What the steps of requests show of their ends: each step of a call is of the call that was asked for, a call ends when
it has filled its template, and no other step ends it with a page. -/
structure Ended (engine : Engine) (requests : List Request) (taken : List (Nat × (Rendering ⊕ Clearing) × Engine))
    (calls : List (Progress (Rendering ⊕ Clearing) Answer)) (state : Engine) : Prop where
  installed : SameInstallation engine state
  found : ∀ step ∈ taken, SameInstallation engine step.2.2
  asked : ∀ caller phase, calls[caller]? = some (Progress.running (Sum.inl phase)) → Asks requests caller phase.call
  fills : ∀ caller call view collected output holder,
    (caller, Sum.inl (Rendering.templating call view collected output), holder) ∈ taken →
      calls[caller]? = some (.finished (.inl (holder.page call view collected output))) ∧ Asks requests caller call
  sends : ∀ caller body, calls[caller]? = some (Progress.finished (Sum.inl (Except.ok body))) →
    ∃ call view collected output holder, (caller, Sum.inl (Rendering.templating call view collected output), holder) ∈ taken

theorem rendering_next (collaborators : Compile.Collaborators) (token : Nat → String) (phase : Rendering) (engine : Engine) :
    ((serving collaborators token).step (.inl phase) engine).1 = (phase.step collaborators token engine).1.asLeft := by
  rw [serving, Activity.either_step_inl]
  rfl

theorem clearing_next (collaborators : Compile.Collaborators) (token : Nat → String) (phase : Clearing) (engine : Engine) :
    ((serving collaborators token).step (.inr phase) engine).1 = (phase.step engine).1.asRight := by
  rw [serving, Activity.either_step_inr]
  rfl

theorem Ended.step {collaborators : Compile.Collaborators} {token : Nat → String} {engine state : Engine}
    {requests : List Request} {taken : List (Nat × (Rendering ⊕ Clearing) × Engine)}
    {calls : List (Progress (Rendering ⊕ Clearing) Answer)} (ended : Ended engine requests taken calls state) {caller : Nat}
    {phase : Rendering ⊕ Clearing} (running : calls[caller]? = some (.running phase)) :
    Ended engine requests (taken ++ [(caller, phase, state)])
      (calls.set caller ((serving collaborators token).step phase state).1)
      ((serving collaborators token).step phase state).2 := by
  have reached (other : Nat) (progress : Progress (Rendering ⊕ Clearing) Answer)
      (found : (calls.set caller ((serving collaborators token).step phase state).1)[other]? = some progress) :
      other = caller ∧ ((serving collaborators token).step phase state).1 = progress ∨ calls[other]? = some progress := by
    rw [List.getElem?_set] at found
    split at found
    next same =>
      split at found
      · exact .inl ⟨same.symm, Option.some.inj found⟩
      · cases found
    next => exact .inr found
  refine ⟨ended.installed.trans (serving_installation ..), ?_, ?_, ?_, ?_⟩
  · intro step member
    rcases List.mem_append.mp member with old | new
    · exact ended.found step old
    · rw [List.mem_singleton.mp new]
      exact ended.installed
  · intro other next found
    rcases reached other _ found with ⟨rfl, moved⟩ | old
    · cases phase with
      | inl phase =>
        rw [rendering_next] at moved
        cases stepped : (phase.step collaborators token state).1 with
        | running later =>
          rw [stepped] at moved
          cases moved
          rw [call_step stepped]
          exact ended.asked other phase running
        | finished result => rw [stepped] at moved; cases moved
      | inr phase =>
        rw [clearing_next] at moved
        cases stepped : (phase.step state).1 <;> rw [stepped] at moved <;> cases moved
    · exact ended.asked other next old
  · intro other call view collected output holder member
    rcases List.mem_append.mp member with old | new
    · obtain ⟨finished, asks⟩ := ended.fills other call view collected output holder old
      -- A call that has ended takes no further step.
      have apart : caller ≠ other := fun same => by
        rw [← same, running] at finished
        cases finished
      rw [List.getElem?_set_ne apart]
      exact ⟨finished, asks⟩
    · cases List.mem_singleton.mp new
      have inside := (List.getElem?_eq_some_iff.mp running).1
      refine ⟨?_, ended.asked caller _ running⟩
      rw [List.getElem?_set_self inside, rendering_next]
      rfl
  · intro other body found
    rcases reached other _ found with ⟨rfl, moved⟩ | old
    · cases phase with
      | inl phase =>
        rw [rendering_next] at moved
        cases stepped : (phase.step collaborators token state).1 with
        | running later => rw [stepped] at moved; cases moved
        | finished result =>
          rw [stepped] at moved
          cases moved
          obtain ⟨call, view, collected, output, rfl, -⟩ := eq_templating_of_ok stepped
          exact ⟨call, view, collected, output, state, by simp⟩
      | inr phase =>
        rw [clearing_next] at moved
        cases stepped : (phase.step state).1 <;> rw [stepped] at moved <;> cases moved
    · obtain ⟨call, view, collected, output, holder, member⟩ := ended.sends other body old
      exact ⟨call, view, collected, output, holder, List.mem_append_left _ member⟩

namespace Service
variable {service left right : Service} {caller caller' : Nat} {call call' : Call} {view : Path} {collected : String}
  {output : Render.Output} {body body' : String}

theorem ended (service : Service) : ∃ state, Ended service.engine service.requests service.trace service.calls state := by
  refine ⟨_, (serving service.collaborators service.token).trace_induction
    (motive := Ended service.engine service.requests)
    (fun taken calls state index phase before running => before.step running) service.schedule _ ?_⟩
  refine ⟨⟨rfl, rfl, rfl, rfl, rfl⟩, by simp, fun caller phase found => ?_, by simp, fun caller body found => ?_⟩
  · obtain ⟨request, asked, started⟩ := by simpa [requested] using found
    cases request with
    | render call candidates => cases started; exact ⟨candidates, asked⟩
    | clear => cases started
  · simp [requested] at found

/-- A render that runs alone is a service of one request. -/
theorem sends_of_render {collaborators : Compile.Collaborators} {token : Nat → String} {engine after : Engine}
    (rendered : engine.render collaborators token call = (.ok body, after)) : ∃ candidates schedule,
      Sends { collaborators, token, engine, requests := [.render call candidates], schedule } 0 body := by
  let candidates := View.candidates engine.wrappers.files engine.roots call.name engine.config.extension
  obtain ⟨schedule, ends⟩ := (serving collaborators token).exists_interleave_eq_run (.inl (.looking call candidates)) engine
  refine ⟨candidates, schedule, ?_⟩
  have run : (Rendering.activity collaborators token).run (.looking call candidates) engine = (.ok body, after) := rendered
  have alone : (outcome collaborators token engine [.render call candidates] schedule).1 = _ := congrArg Prod.fst ends
  rw [serving, Activity.either_run_inl, run] at alone
  rw [Sends, calls, alone]
  rfl

theorem asks_of_fills (fills : service.Fills caller call view collected output) : Asks service.requests caller call := by
  obtain ⟨state, ended⟩ := service.ended
  obtain ⟨holder, member⟩ := fills
  exact (ended.fills _ _ _ _ _ _ member).2

/-- Whoever is sent a page has filled a template before. -/
theorem fills_of_sends (sends : service.Sends caller body) : ∃ call view collected output,
    Asks service.requests caller call ∧ service.Fills caller call view collected output := by
  obtain ⟨state, ended⟩ := service.ended
  obtain ⟨call, view, collected, output, holder, member⟩ := ended.sends caller body sends
  have fills : service.Fills caller call view collected output := ⟨holder, member⟩
  exact ⟨call, view, collected, output, asks_of_fills fills, fills⟩

/-- The page that is sent is the one that was filled, by the engine as it was installed. -/
theorem page_of_sends (sends : service.Sends caller body) (fills : service.Fills caller call view collected output) :
    service.engine.page call view collected output = .ok body := by
  obtain ⟨state, ended⟩ := service.ended
  obtain ⟨holder, member⟩ := fills
  have finished := (ended.fills _ _ _ _ _ _ member).1
  rw [← (ended.found _ member).page]
  exact Sum.inl.inj (Progress.finished.inj (Option.some.inj (finished.symm.trans sends)))

end Service

/-- Two engines lay out pages without a client alike. Their scripts and what they offer to older browsers may differ, as
may all that they have done since they were installed. -/
structure LaysOutAs (left right : Engine) : Prop where
  roots : left.roots = right.roots
  host : left.site.host = right.site.host
  styles : left.site.manifest.styles = right.site.manifest.styles

theorem LaysOutAs.style {left right : Engine} (alike : left.LaysOutAs right) (view : Path) (rendered collected : String) :
    left.site.style (left.key view) rendered collected = right.site.style (right.key view) rendered collected := by
  have linked (key : String) : left.site.stylesheet key = right.site.stylesheet key := by
    simp only [Page.Site.stylesheet, Page.Site.address, Bundle.Manifest.viewStyle?, alike.styles, alike.host]
  simp only [Page.Site.style, key, alike.roots, linked]

theorem page_settled {engine : Engine} {call : Call} {view : Path} {collected : String} {output : Render.Output}
    {body : String} (static : (call.buildOptions engine.defaults).hydratable = false)
    (filled : engine.page call view collected output = .ok body) : ∃ template, engine.templateFor call = .ok template ∧
      ∀ data : Page.Data, data.head = output.head → data.html = output.html →
        data.style = engine.site.style (engine.key view) output.css collected → body = template.settled.render data := by
  rw [page_eq_map] at filled
  cases used : engine.templateFor call with
  | error error => rw [used] at filled; cases filled
  | ok template =>
    rw [used, static] at filled
    cases filled
    refine ⟨template, rfl, fun data head html style => ?_⟩
    exact Page.render_staticData template ⟨head.symm, style.symm, html.symm⟩

/-- What pages without a client depend on. Whoever is sent a page has filled a template. Two calls for a view that fill one
template with the same output and the same collected styles are sent the same page, by one engine or by two that differ in
their scripts: the template without state and scripts, whatever the props, the globals and the scopes of the calls are. -/
theorem static_pages_equal {left right : Service} (alike : left.engine.LaysOutAs right.engine) {caller caller' : Nat}
    {body body' : String} (sends : left.Sends caller body) (sends' : right.Sends caller' body') :
    (∃ call view collected output, Asks left.requests caller call ∧ left.Fills caller call view collected output) ∧
    ∀ call call' view collected output,
      left.Fills caller call view collected output → right.Fills caller' call' view collected output →
      (call.buildOptions left.engine.defaults).hydratable = false →
      (call'.buildOptions right.engine.defaults).hydratable = false →
      left.engine.templateFor call = right.engine.templateFor call' →
        body = body' ∧ ∃ template, left.engine.templateFor call = .ok template ∧
          ∀ data : Page.Data, data.head = output.head → data.html = output.html →
            data.style = left.engine.site.style (left.engine.key view) output.css collected →
              body = template.settled.render data := by
  refine ⟨Service.fills_of_sends sends, fun call call' view collected output fills fills' static static' template => ?_⟩
  obtain ⟨used, found, settled⟩ := page_settled static (Service.page_of_sends sends fills)
  obtain ⟨used', found', settled'⟩ := page_settled static' (Service.page_of_sends sends' fills')
  obtain rfl : used = used' := Except.ok.inj (found.symm.trans (template.trans found'))
  refine ⟨?_, used, found, settled⟩
  let data := left.engine.site.staticData (left.engine.key view) output collected
  have first := settled data rfl rfl rfl
  have second := settled' data rfl rfl (alike.style view output.css collected)
  rw [first, second]

/-- A component that shows one greeting. -/
def greeting : Compile.Collaborators :=
  { willing with render := fun _ _ _ => .ok { html := "<p>hi</p>", head := "", css := "p" } }

/-- A call without hydration that brings a template with all kinds of placeholders. -/
def staticCall (props : String) (token : List (String × Json)) : Call where
  name := "P"
  options := { plainCall.options with
    props := .text props, hydratable := some false
    template := some "${html}|${style}|${ props }|${script}|${globalProps}|${hydratable}|${html}|${other}" }
  scopes := { app := .ofList token, request := .empty, response := .empty }

/-- An engine that also has scripts for its view, but none for older browsers. -/
def scripted (engine : Engine) : Engine :=
  { engine with site := { engine.site with
      legacy := false
      manifest := { engine.site.manifest with scripts := .ofList [("P-modern", "P-modern-5cd0a7e1.js")] } } }

/-- A call for the one view beside a request that clears the engine meanwhile. -/
def visiting (engine : Engine) (call : Call) : Service where
  collaborators := greeting
  token := Store.countingToken
  engine := engine
  requests := [.clear, .render call [{ text := "views/P.svelte" }]]
  schedule := [1, 1, 1, 0, 1, 1, 0, 0, 0, 1, 1, 1, 1, 1, 1]

/-- The page that a call was sent, if it was. -/
def sent? : Progress (Rendering ⊕ Clearing) Answer → Option String
  | .finished (.inl (.ok body)) => some body
  | _ => none

theorem sent?_eq_some_iff {progress : Progress (Rendering ⊕ Clearing) Answer} {body : String} :
    sent? progress = some body ↔ progress = .finished (.inl (.ok body)) := by
  unfold sent?
  split <;> simp_all

/-- Whether a step fills the template for the one view with the greeting. -/
def greets : Nat × (Rendering ⊕ Clearing) × Engine → Bool
  | (caller, .inl (.templating _ view collected output), _) =>
    caller == 1 && view == { text := "views/P.svelte" } && collected == "css" &&
      output == { html := "<p>hi</p>", head := "", css := "p" }
  | _ => false

/-- The greeting is filled into the template of the call. -/
theorem fills_of_greets {engine : Engine} {call : Call} (greeted : (visiting engine call).trace.any greets) :
    (visiting engine call).Fills 1 call { text := "views/P.svelte" } "css" { html := "<p>hi</p>", head := "", css := "p" } := by
  obtain ⟨step, member, greets⟩ := List.any_eq_true.mp greeted
  obtain ⟨caller, phase, holder⟩ := step
  unfold Engine.greets at greets
  split at greets
  next other view collected output state same =>
    simp only [Bool.and_eq_true, beq_iff_eq] at greets
    obtain ⟨⟨⟨rfl, rfl⟩, rfl⟩, rfl⟩ := greets
    cases same
    have fills : (visiting engine call).Fills 1 _ _ _ _ := ⟨holder, member⟩
    obtain ⟨candidates, asked⟩ := Service.asks_of_fills fills
    cases asked
    exact fills
  next => cases greets

/-- Two visitors get one page from two engines, whatever is known of them and whichever scripts there are. -/
theorem visitors_share_a_page : ∃ engine, install Config.ofDefaults none oneView = .ok engine ∧
    ∃ body, (visiting engine (staticCall "ada" [("token", .text "5cd0a7e1")])).Sends 1 body ∧
      (visiting engine.scripted (staticCall "bob" [])).Sends 1 body ∧
        body = "<p>hi</p>|<style>p\ncss</style>||||false|<p>hi</p>|" := by
  have facts : (install Config.ofDefaults none oneView).toOption.any (fun engine =>
      let left := visiting engine (staticCall "ada" [("token", .text "5cd0a7e1")])
      let right := visiting engine.scripted (staticCall "bob" [])
      left.calls[1]?.bind sent? == some "<p>hi</p>|<style>p\ncss</style>||||false|<p>hi</p>|" &&
        (right.calls[1]?.bind sent?).isSome && left.trace.any greets && right.trace.any greets) := by decide +kernel
  cases installed : install Config.ofDefaults none oneView with
  | error error => rw [installed] at facts; cases facts
  | ok engine =>
    rw [installed] at facts
    simp only [Except.toOption, Option.any_some, Bool.and_eq_true, beq_iff_eq, Option.isSome_iff_exists,
      Option.bind_eq_some_iff] at facts
    obtain ⟨⟨⟨⟨progress, reached, sent⟩, body', progress', reached', sent'⟩, greeted⟩, greeted'⟩ := facts
    obtain rfl := sent?_eq_some_iff.mp sent
    obtain rfl := sent?_eq_some_iff.mp sent'
    have alike : engine.LaysOutAs engine.scripted := ⟨rfl, rfl, rfl⟩
    have shared := (static_pages_equal alike reached reached').2
      _ _ _ _ _ (fills_of_greets greeted) (fills_of_greets greeted') rfl rfl rfl
    obtain rfl := shared.1
    exact ⟨engine, rfl, _, reached, reached', rfl⟩

end Engine
end ComponentViews
