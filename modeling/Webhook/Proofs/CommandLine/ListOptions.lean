import Mathlib.Data.List.Forall2
import Webhook.CommandLine.Settings
import Webhook.Proofs.Text.Cutting

/-!
# Options that are lists

A list can be given any number of times.  Its values are those of the command line if it is given
there at all, otherwise those of its variable if that is set, and otherwise its defaults
(`Sourced`).  They are never put together out of two of these, and no list has part in the values
of another one.

What is given to a list is seen through `Given.texts?`.  Reading an occurrence adds the parts of its
value there (`Reading.next_argument`), and reading a variable adds them if nothing was given before
(`Reading.fromEnvironment_eq`).  From the two steps come the runs over all occurrences
(`texts?_addAll`) and over all variables (`texts?_supplyAll`), which `parse_lists` puts together.
-/

namespace Webhook.CommandLine

/-! ## Parts of a text -/

/-- The parts of a text that commas divide. -/
structure PartedAtCommas (text : String) (parts : List String) : Prop where
  /-- There is a part, even of the empty text. -/
  nonempty : parts ≠ []
  /-- No part has a comma. -/
  free : ∀ part ∈ parts, ',' ∉ part.toList
  /-- With commas between them, the parts make up the text. -/
  whole : [','].intercalate (parts.map String.toList) = text.toList

/-- A text that is not divided. -/
def Undivided (text : String) (parts : List String) : Prop := parts = [text]

theorem not_mem_of_mem_splitOn {c : Char} {text part : List Char} (h : part ∈ text.splitOn c) :
    c ∉ part := by
  induction text generalizing part with
  | nil =>
      rw [List.splitOn, List.splitOnP_nil, List.mem_singleton] at h
      rw [h]
      exact List.not_mem_nil
  | cons d text ih =>
      rw [List.splitOn, List.splitOnP_cons_eq_if_modifyHead, ← List.splitOn] at h
      split at h
      next =>
        rcases List.mem_cons.mp h with rfl | h
        · exact List.not_mem_nil
        · exact ih h
      next hne =>
        -- the letter goes to the first part
        cases hparts : text.splitOn c with
        | nil => exact absurd hparts (List.splitOnP_ne_nil _ _)
        | cons first others =>
            rw [hparts, List.modifyHead_cons, List.mem_cons] at h
            rw [hparts] at ih
            rcases h with rfl | h
            · rw [List.mem_cons, not_or]
              exact ⟨fun heq => hne (beq_iff_eq.mpr heq.symm), ih (.head _)⟩
            · exact ih (.tail _ h)

theorem partedAtCommas_splitOn (text : String) :
    PartedAtCommas text ((text.toList.splitOn ',').map String.ofList) where
  nonempty := by
    rw [Ne, List.map_eq_nil_iff]
    exact List.splitOnP_ne_nil _ _
  free part hpart := by
    obtain ⟨cs, hcs, rfl⟩ := List.mem_map.mp hpart
    rw [String.toList_ofList]
    exact not_mem_of_mem_splitOn hcs
  whole := by
    have hlists : ((text.toList.splitOn ',').map String.ofList).map String.toList
        = text.toList.splitOn ',' := by
      rw [List.map_map]
      exact (List.map_congr_left fun _ _ => String.toList_ofList).trans (List.map_id _)
    rw [hlists, List.intercalate_splitOn]

namespace Flag

/-- An option that can be given any number of times. -/
def IsList (f : Flag) : Prop := f.arity = .list true ∨ f.arity = .list false

instance : DecidablePred IsList := fun _ => inferInstanceAs (Decidable (_ ∨ _))

/-- How a value of a list stands for several. -/
def Parted (f : Flag) : String → List String → Prop :=
  if f.arity = .list true then PartedAtCommas else Undivided

theorem parted_divide {f : Flag} (h : f.IsList) (text : String) : f.Parted text (f.divide text) := by
  rcases h with h | h
  · rw [Parted, divide, h, if_pos rfl]
    exact partedAtCommas_splitOn text
  · rw [Parted, divide, h, if_neg (by decide)]
    exact Eq.refl [text]

/-- Texts as values of a list. -/
def ofTexts : (f : Flag) → List String → List f.Value
  | ingressNamespaces, texts | serviceNamespaces, texts | providers, texts | podNamespaces, texts
  | requiredAnnotations, texts => texts
  | certPath, _ | keyPath, _ | httpOnly, _ | listenAddress, _ | port, _ | host, _ | timeout, _
  | gracePeriod, _ | watchTls, _ | logFilter, _ | logFormat, _ => []

end Flag

/-! ## What is given to a list -/

namespace Given

/-- The texts that are given to a list, if it is given. -/
def texts? (g : Given) : Flag → Option (List String)
  | .ingressNamespaces => g .ingressNamespaces
  | .serviceNamespaces => g .serviceNamespaces
  | .providers => g .providers
  | .podNamespaces => g .podNamespaces
  | .requiredAnnotations => g .requiredAnnotations
  | _ => none

/-- The texts of a list are followed by further ones. -/
def add (g : Given) (f : Flag) (texts : List String) : Given := g.set f (g.many f [] ++ f.ofTexts texts)

theorem has_eq {f : Flag} (h : f.IsList) (g : Given) : g.has f = (g.texts? f).isSome := by
  cases f <;> first | rfl | exact absurd h (by decide)

theorem texts?_add_same {f : Flag} (h : f.IsList) (g : Given) (texts : List String) :
    (g.add f texts).texts? f = some ((g.texts? f).getD [] ++ texts) := by
  have hset : g.add f texts f = some (g.many f [] ++ f.ofTexts texts) := set_same ..
  cases f <;> first | exact hset | exact absurd h (by decide)

theorem texts?_add_other {f f' : Flag} (hne : f ≠ f') (g : Given) (texts : List String) :
    (g.add f texts).texts? f' = g.texts? f' := by
  have hset : g.add f texts f' = g f' := set_other g _ hne
  cases f' <;> first | exact hset | rfl

end Given

/-! ## Reading what is given -/

/-- An option on the command line with its value attached to it. -/
structure Occurrence where
  /-- The option. -/
  flag : Flag
  /-- The value. -/
  value : String
  deriving DecidableEq, Repr

namespace Occurrence

/-- The argument in which an occurrence stands. -/
def argument (o : Occurrence) : String := "--" ++ o.flag.name ++ "=" ++ o.value

/-- The values that occurrences give to an option, in their order. -/
def values (f : Flag) (os : List Occurrence) : List String :=
  (os.filter (·.flag = f)).map (·.value)

theorem values_cons_same (o : Occurrence) (os : List Occurrence) :
    values o.flag (o :: os) = o.value :: values o.flag os := by
  rw [values, List.filter_cons, if_pos (decide_eq_true rfl), List.map_cons, ← values]

theorem values_cons_other {o : Occurrence} {f : Flag} (h : o.flag ≠ f) (os : List Occurrence) :
    values f (o :: os) = values f os := by
  rw [values, List.filter_cons_of_neg (by simpa using h), ← values]

theorem toList_argument (o : Occurrence) :
    o.argument.toList = '-' :: '-' :: (o.flag.name.toList ++ '=' :: o.value.toList) := by
  rw [argument, String.toList_append, String.toList_append, String.toList_append, List.append_assoc,
    List.append_assoc]
  rfl

end Occurrence

namespace Reading

/-- A name without an equals sign is divided from its value at the first one. -/
theorem divideAtEquals_append {name : List Char} (value : List Char) (h : '=' ∉ name) :
    divideAtEquals (name ++ '=' :: value) = (String.ofList name, some (String.ofList value)) := by
  rw [divideAtEquals, Text.takeWhile_to_mark h, Text.dropWhile_to_mark h]

theorem named_list {f : Flag} (h : f.IsList) (r : Reading) (value : String) :
    r.named f.name (some value) = r.give f (f.divide value) := by
  cases f <;> first | rfl | exact absurd h (by decide)

theorem readAll_list {f : Flag} (h : f.IsList) (texts : List String) :
    readAll f texts = .ok (f.ofTexts texts) := by
  have hall : texts.mapM (fun text => (Except.ok text : Except Stop String)) = .ok texts := by
    induction texts with
    | nil => rfl
    | cons text texts ih =>
        rw [List.mapM_cons, ih]
        rfl
  cases f <;> first | exact hall | exact absurd h (by decide)

/-- Nothing can be wrong with the values of a list, and they follow those it has. -/
theorem store_list {f : Flag} (h : f.IsList) (g : Given) (texts : List String) :
    store g f texts = .ok (g.add f texts) := by
  have hread := readAll_list h texts
  rw [store]
  rcases h with h | h <;> rw [h, hread] <;> rfl

/-- An occurrence of a list adds the parts of its value. -/
theorem next_argument {o : Occurrence} (h : o.flag.IsList) (g : Given) :
    next ⟨g, none⟩ o.argument = .ok ⟨g.add o.flag (o.flag.divide o.value), none⟩ := by
  have hname : '=' ∉ o.flag.name.toList := by
    cases o.flag <;> decide +kernel
  rw [next, o.toList_argument]
  simp only [divideAtEquals_append o.value.toList hname, String.ofList_toList]
  rw [named_list h, give, settle]
  simp only [bind, Except.bind, store_list h]
  rfl

/-- What is given after some occurrences. -/
def addAll (g : Given) (os : List Occurrence) : Given :=
  os.foldl (fun g o => g.add o.flag (o.flag.divide o.value)) g

/-- Occurrences of lists are read one after the other, and nothing can be wrong with them. -/
theorem arguments_occurrences {os : List Occurrence} (h : ∀ o ∈ os, o.flag.IsList) (g : Given) :
    arguments ⟨g, none⟩ (os.map Occurrence.argument) = .ok (addAll g os) := by
  induction os generalizing g with
  | nil => rfl
  | cons o os ih =>
      obtain ⟨ho, hos⟩ := List.forall_mem_cons.mp h
      have hdashes : o.argument ≠ "--" := by
        intro heq
        have htext := o.toList_argument.symm.trans (congrArg String.toList heq)
        have hlength := congrArg List.length htext
        simp at hlength
      rw [List.map_cons, arguments, next_argument ho]
      · exact ih hos _
      · exact fun heq _ => hdashes heq
      · exact fun _ _ heq _ => hdashes heq

/-- What the occurrences of a list give to it.  Those of the others do not matter. -/
theorem texts?_addAll {os : List Occurrence} (h : ∀ o ∈ os, o.flag.IsList) (g : Given) (f : Flag) :
    (addAll g os).texts? f =
      if Occurrence.values f os = [] then g.texts? f
      else some ((g.texts? f).getD [] ++ (Occurrence.values f os).flatMap f.divide) := by
  induction os generalizing g with
  | nil => rfl
  | cons o os ih =>
      obtain ⟨ho, hos⟩ := List.forall_mem_cons.mp h
      show (addAll (g.add o.flag (o.flag.divide o.value)) os).texts? f = _
      rw [ih hos]
      by_cases hflag : o.flag = f
      · subst hflag
        rw [Occurrence.values_cons_same, Given.texts?_add_same ho, if_neg (List.cons_ne_nil _ _),
          List.flatMap_cons]
        split
        next hnone => rw [hnone, List.flatMap_nil, List.append_nil]
        next => rw [Option.getD_some, List.append_assoc]
      · rw [Occurrence.values_cons_other hflag, Given.texts?_add_other hflag]

/-! ## Reading the environment -/

/-- What is given after the variable of an option is looked at. -/
def supply (env : List (String × String)) (g : Given) (f : Flag) : Given :=
  match g.has f, env.lookup f.envName with
  | false, some text => g.add f (f.divide text)
  | _, _ => g

/-- Nothing can be wrong with a variable when only those of lists are set. -/
theorem fromEnvironment_eq {env : List (String × String)}
    (henv : ∀ f : Flag, ¬ f.IsList → env.lookup f.envName = none) (g : Given) (f : Flag) :
    fromEnvironment env g f = .ok (supply env g f) := by
  rw [fromEnvironment, supply]
  by_cases hlist : f.IsList
  · cases g.has f with
    | true => rfl
    | false =>
        cases env.lookup f.envName with
        | none => rfl
        | some text => exact store_list hlist g (f.divide text)
  · rw [henv f hlist]
    cases g.has f <;> rfl

/-- A variable counts for a list to which nothing is given. -/
theorem texts?_supply_same {f : Flag} (h : f.IsList) (env : List (String × String)) (g : Given) :
    (supply env g f).texts? f = (g.texts? f).or ((env.lookup f.envName).map f.divide) := by
  rw [supply, g.has_eq h]
  cases hgiven : g.texts? f with
  | some texts => exact hgiven
  | none =>
      cases env.lookup f.envName with
      | none => exact hgiven
      | some text =>
          show (g.add f (f.divide text)).texts? f = _
          rw [Given.texts?_add_same h, hgiven]
          rfl

theorem texts?_supply_other {f f' : Flag} (hne : f ≠ f') (env : List (String × String))
    (g : Given) : (supply env g f).texts? f' = g.texts? f' := by
  rw [supply]
  split
  next => exact Given.texts?_add_other hne g _
  next => rfl

/-- Once the variables of different options are looked at, those of lists count where nothing was
given before. -/
theorem texts?_supplyAll {f : Flag} (h : f.IsList) (env : List (String × String)) {fs : List Flag}
    (hfs : fs.Nodup) (g : Given) : (fs.foldl (supply env) g).texts? f =
      if f ∈ fs then (g.texts? f).or ((env.lookup f.envName).map f.divide) else g.texts? f := by
  induction fs generalizing g with
  | nil => rfl
  | cons f' fs ih =>
      obtain ⟨hnew, hfs⟩ := List.nodup_cons.mp hfs
      rw [List.foldl_cons, ih hfs]
      by_cases hflag : f' = f
      · subst hflag
        rw [if_neg hnew, if_pos (.head _), texts?_supply_same h]
      · rw [texts?_supply_other hflag]
        simp only [List.mem_cons, Ne.symm hflag, false_or]

theorem environment_foldlM {env : List (String × String)}
    (henv : ∀ f : Flag, ¬ f.IsList → env.lookup f.envName = none) (fs : List Flag) (g : Given) :
    fs.foldlM (fromEnvironment env) g = .ok (fs.foldl (supply env) g) := by
  induction fs generalizing g with
  | nil => rfl
  | cons f fs ih =>
      rw [List.foldlM_cons, fromEnvironment_eq henv]
      exact ih _

end Reading

/-! ## Where the values come from -/

/-- The values of a list: the parts of all the values that it is given on the command line, or those
of its variable, or its defaults.  The first of the three that is there counts alone. -/
inductive Sourced (parted : String → List String → Prop) (given : List String)
    (found : Option String) (defaults : List String) : List String → Prop where
  /-- The command line gives values. -/
  | commandLine {parts : List (List String)} (hgiven : given ≠ [])
    (hparts : List.Forall₂ parted given parts) : Sourced parted given found defaults parts.flatten
  /-- The command line gives none, and the variable is set. -/
  | environment {text : String} {parts : List String} (hgiven : given = [])
    (hfound : found = some text) (hparts : parted text parts) :
    Sourced parted given found defaults parts
  /-- Neither is there. -/
  | fallback (hgiven : given = []) (hfound : found = none) :
    Sourced parted given found defaults defaults

/-- What is given to a list in the end, or else its defaults. -/
theorem sourced_getD {f : Flag} (h : f.IsList) (given : List String) (found : Option String)
    (defaults : List String) : Sourced f.Parted given found defaults
      (((if given = [] then none else some (given.flatMap f.divide)).or
        (found.map f.divide)).getD defaults) := by
  by_cases hgiven : given = []
  · rw [if_pos hgiven]
    cases found with
    | none => exact .fallback hgiven rfl
    | some text => exact .environment hgiven rfl (f.parted_divide h text)
  · have hparts : List.Forall₂ f.Parted given (given.map f.divide) := by
      rw [List.forall₂_map_right_iff, List.forall₂_same]
      exact fun text _ => f.parted_divide h text
    rw [if_neg hgiven]
    exact .commandLine hgiven hparts

/-- What is given by occurrences of lists, and by an environment that sets no other option. -/
theorem readGiven_lists {os : List Occurrence} {env : List (String × String)}
    (hlists : ∀ o ∈ os, o.flag.IsList)
    (henv : ∀ f : Flag, ¬ f.IsList → env.lookup f.envName = none) :
    ∃ g, readGiven (os.map Occurrence.argument) env = .ok g ∧ ∀ f : Flag, f.IsList →
      g.texts? f = (if Occurrence.values f os = [] then none
        else some ((Occurrence.values f os).flatMap f.divide)).or
          ((env.lookup f.envName).map f.divide) := by
  refine ⟨Flag.all.foldl (Reading.supply env) (Reading.addAll .nothing os), ?_, fun f hf => ?_⟩
  · rw [readGiven, Reading.start, Reading.arguments_occurrences hlists]
    exact Reading.environment_foldlM henv Flag.all _
  · have hall : f ∈ Flag.all := by
      cases f <;> decide
    have hnothing : Given.nothing.texts? f = none := by
      cases f <;> rfl
    rw [Reading.texts?_supplyAll hf env (by decide), if_pos hall, Reading.texts?_addAll hlists,
      hnothing]
    rfl

/-- A command line of occurrences of lists is always understood when the environment sets no other
option.  The values of each list come from its own occurrences, or else from its own variable, or
else are its defaults.  Commas divide the values of all lists but that of the required annotations. -/
theorem Settings.parse_lists {os : List Occurrence} {env : List (String × String)}
    (hlists : ∀ o ∈ os, o.flag.IsList)
    (henv : ∀ f : Flag, ¬ f.IsList → env.lookup f.envName = none) :
    ∃ s, parse (os.map Occurrence.argument) env = .ok s ∧
      Sourced PartedAtCommas (Occurrence.values .ingressNamespaces os)
        (env.lookup "INGRESS_ALLOWED_NAMESPACE") [] s.ingressNamespaces ∧
      Sourced PartedAtCommas (Occurrence.values .serviceNamespaces os)
        (env.lookup "SERVICE_ALLOWED_NAMESPACE") [] s.serviceNamespaces ∧
      Sourced PartedAtCommas (Occurrence.values .providers os)
        (env.lookup "PROVIDERS") ["gcp", "azure", "aws"] s.providers ∧
      Sourced PartedAtCommas (Occurrence.values .podNamespaces os)
        (env.lookup "POD_ANNOTATION_ALLOWED_NAMESPACE") ["kube-system"] s.podNamespaces ∧
      Sourced Undivided (Occurrence.values .requiredAnnotations os)
        (env.lookup "REQUIRED_POD_ANNOTATION") ["k8s.questionable.services/hostname"]
        s.requiredAnnotations := by
  obtain ⟨g, hread, hgiven⟩ := readGiven_lists hlists henv
  have sourced : ∀ f : Flag, f.IsList → ∀ defaults, Sourced f.Parted (Occurrence.values f os)
      (env.lookup f.envName) defaults ((g.texts? f).getD defaults) := by
    intro f hf defaults
    rw [hgiven f hf]
    exact sourced_getD hf _ _ defaults
  refine ⟨ofGiven g, ?_, ?_, ?_, ?_, ?_, ?_⟩
  · rw [parse, hread]
    rfl
  · exact sourced .ingressNamespaces (.inl rfl) []
  · exact sourced .serviceNamespaces (.inl rfl) []
  · exact sourced .providers (.inl rfl) ["gcp", "azure", "aws"]
  · exact sourced .podNamespaces (.inl rfl) ["kube-system"]
  · exact sourced .requiredAnnotations (.inr rfl) ["k8s.questionable.services/hostname"]

theorem Settings.parse_lists_mixed :
    ∃ s, parse ["--providers=aws,", "--required-pod-annotation=team=a,b", "--providers=gcp"]
        [("HOME", "/"), ("PROVIDERS", "azure"), ("SERVICE_ALLOWED_NAMESPACE", "")] = .ok s ∧
      Sourced PartedAtCommas [] none [] s.ingressNamespaces ∧
      Sourced PartedAtCommas [] (some "") [] s.serviceNamespaces ∧
      Sourced PartedAtCommas ["aws,", "gcp"] (some "azure") ["gcp", "azure", "aws"] s.providers ∧
      Sourced PartedAtCommas [] none ["kube-system"] s.podNamespaces ∧
      Sourced Undivided ["team=a,b"] none ["k8s.questionable.services/hostname"]
        s.requiredAnnotations := by
  let os : List Occurrence :=
    [⟨.providers, "aws,"⟩, ⟨.requiredAnnotations, "team=a,b"⟩, ⟨.providers, "gcp"⟩]
  have hlists : ∀ o ∈ os, o.flag.IsList := by decide
  refine parse_lists hlists fun f hf => ?_
  cases f <;> first | decide +kernel | exact absurd (by decide) hf

-- The last comma divides too, and the empty text has one part.
example : (Settings.parse ["--providers=aws,"] [("SERVICE_ALLOWED_NAMESPACE", "")]).toOption.map
    (fun s => (s.providers, s.serviceNamespaces)) = some (["aws", ""], [""]) := by decide +kernel

end Webhook.CommandLine
