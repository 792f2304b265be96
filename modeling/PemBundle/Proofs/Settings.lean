import PemBundle.Proofs.Json.Shown
import PemBundle.Proofs.Outcome
import PemBundle.Settings

/-!
# What decides each setting

Each setting is decided by the highest source that sets it, and by no other source and no other
setting: an override, the last variable of its name, the last entry of its name in the file, the
default. Loading fails for the values that a format or a level cannot have, all of them reported in
the order of the settings, and not for a chain order that can be shown as a text. What was loaded can
be given back as overrides.
-/

namespace PemBundle

/-- Text names a level if it is the level's name, whatever its case and the blanks around it. -/
def LogLevel.IsNamedBy (level : LogLevel) (text : CodeText) : Prop :=
  ∃ word, text = .unicode word ∧
    Text.upper (String.ofList (Text.trim word.toList)) = level.settingName

theorem LogLevel.ofSetting?_eq_some_iff (word : String) (level : LogLevel) :
    ofSetting? word = some level ↔
      Text.upper (String.ofList (Text.trim word.toList)) = level.settingName := by
  rw [ofSetting?]
  generalize Text.upper (String.ofList (Text.trim word.toList)) = wanted
  constructor
  · intro h
    have hname := List.find?_some h
    exact (of_decide_eq_true hname).symm
  · rintro rfl
    cases level <;> decide

/-- The level that a text is read as, if it is read, is the one that it names. -/
theorem LogLevel.bind_ofSetting?_eq_some_iff (text : CodeText) (level : LogLevel) :
    text.unicode?.bind ofSetting? = some level ↔ level.IsNamedBy text := by
  cases text with
  | unicode word =>
      rw [CodeText.unicode?, Option.bind_some, ofSetting?_eq_some_iff, IsNamedBy]
      simp only [CodeText.unicode.injEq, exists_eq_left']
  | broken before surrogate after =>
      constructor
      · rintro ⟨⟩
      · rintro ⟨word, ⟨⟩, -⟩

theorem LogLevel.bind_ofSetting?_eq_none_iff (text : CodeText) :
    text.unicode?.bind ofSetting? = none ↔ ∀ level : LogLevel, ¬ level.IsNamedBy text := by
  simp only [Option.eq_none_iff_forall_ne_some, ne_eq, bind_ofSetting?_eq_some_iff]

/-- A level is named by its own name. -/
theorem LogLevel.isNamedBy_settingName (level : LogLevel) : level.IsNamedBy level.settingName := by
  cases level <;> exact ⟨_, rfl, rfl⟩

/-- Text names an order if it is the order's name, whatever its case. -/
def ChainOrder.IsNamedBy (order : ChainOrder) (text : CodeText) : Prop :=
  ∃ word, text = .unicode word ∧ Text.lower word = order.name

theorem ChainOrder.ofName?_eq_some_iff (text : String) (order : ChainOrder) :
    ofName? text = some order ↔ text = order.name := by
  cases order <;> grind [ofName?, name]

theorem ChainOrder.IsNamedBy.ofText_eq {order : ChainOrder} {text : CodeText}
    (h : order.IsNamedBy text) : ofText (some text) = order := by
  obtain ⟨word, rfl, hname⟩ := h
  rw [ofText, Option.bind_some, CodeText.unicode?, Option.bind_some,
    (ofName?_eq_some_iff _ order).mpr hname, Option.getD_some]

theorem ChainOrder.ofText_of_unnamed {text : CodeText}
    (h : ∀ order : ChainOrder, ¬ order.IsNamedBy text) : ofText (some text) = .rootLast := by
  cases text with
  | unicode word =>
      have hnone : ofName? (Text.lower word) = none := by
        rw [Option.eq_none_iff_forall_ne_some]
        exact fun order hname => h order ⟨word, rfl, (ofName?_eq_some_iff _ order).mp hname⟩
      rw [ofText, Option.bind_some, CodeText.unicode?, Option.bind_some, hnone, Option.getD_none]
  | broken before surrogate after => rfl

/-- The settings, in the order in which they are reported. -/
def SettingField.all : List SettingField := [.chainOrder, .keyFormat, .logLevel]

theorem SettingField.name_inj {field other : SettingField} :
    field.name = other.name ↔ field = other := by
  cases field <;> cases other <;> decide

namespace Settings

/-! ### The deciding source -/

/-- The name of an entry is this one in lower case. -/
def IsCalled (name : String) (found : CodeText) : Prop :=
  ∃ word, found = .unicode word ∧ Text.lower word = name

theorem map_lower_eq_some_iff (name : String) (found : CodeText) :
    found.unicode?.map Text.lower = some name ↔ IsCalled name found := by
  cases found with
  | unicode word => simp [CodeText.unicode?, IsCalled]
  | broken before surrogate after => simp [CodeText.unicode?, IsCalled]

/-- The value of the last entry whose name is this one in lower case. -/
def IsLastNamed {α : Type} (name : String) (entries : List (CodeText × α)) (value : α) : Prop :=
  ∃ before found after, entries = before ++ (found, value) :: after ∧ IsCalled name found ∧
    ∀ entry ∈ after, ¬ IsCalled name entry.1

theorem lastNamed_eq_some_iff {α : Type} (name : String) (entries : List (CodeText × α))
    (value : α) : lastNamed name entries = some value ↔ IsLastNamed name entries value := by
  simp only [lastNamed, Option.map_eq_some_iff, IsLastNamed, ← map_lower_eq_some_iff]
  -- the search runs from the end, so what it passed over stands behind what it found
  constructor
  · rintro ⟨⟨found, _⟩, hfind, rfl⟩
    obtain ⟨hfound, after, before, hsplit, hafter⟩ := List.find?_eq_some_iff_append.mp hfind
    refine ⟨before.reverse, found, after.reverse, ?_, of_decide_eq_true hfound, ?_⟩
    · simpa using congrArg List.reverse hsplit
    · intro entry hentry
      simpa using hafter entry (List.mem_reverse.mp hentry)
  · rintro ⟨before, found, after, rfl, hfound, hafter⟩
    refine ⟨(found, value), List.find?_eq_some_iff_append.mpr ⟨decide_eq_true hfound,
      after.reverse, before.reverse, by simp, ?_⟩, rfl⟩
    intro entry hentry
    simpa using hafter entry (List.mem_reverse.mp hentry)

theorem lastNamed_eq_none_iff {α : Type} (name : String) (entries : List (CodeText × α)) :
    lastNamed name entries = none ↔ ∀ value, ¬ IsLastNamed name entries value := by
  simp only [Option.eq_none_iff_forall_ne_some, ne_eq, lastNamed_eq_some_iff]

/-- What the highest source that sets a setting gives for it, if any source does. A name whose last
entry in the file has no value is not set there. -/
inductive Sources.Gives (sources : Sources) (field : SettingField) : Option SettingValue → Prop
  | override {value : SettingValue} (h : sources.overrides.lookup field.name = some value) :
      Gives sources field (some value)
  | environment {text : CodeText} (hoverride : sources.overrides.lookup field.name = none)
      (h : IsLastNamed field.variable sources.environment text) :
      Gives sources field (some (.json (.text text)))
  | file {text : CodeText} (hoverride : sources.overrides.lookup field.name = none)
      (hvariable : ∀ other, ¬ IsLastNamed field.variable sources.environment other)
      (h : IsLastNamed field.variable sources.file (some text)) :
      Gives sources field (some (.json (.text text)))
  | nothing (hoverride : sources.overrides.lookup field.name = none)
      (hvariable : ∀ other, ¬ IsLastNamed field.variable sources.environment other)
      (hfile : ∀ other, ¬ IsLastNamed field.variable sources.file (some other)) :
      Gives sources field none

theorem join_lastNamed_eq_none_iff {α : Type} (name : String)
    (entries : List (CodeText × Option α)) :
    (lastNamed name entries).join = none ↔ ∀ value, ¬ IsLastNamed name entries (some value) := by
  simp only [Option.eq_none_iff_forall_ne_some, ne_eq, Option.join_eq_some_iff,
    lastNamed_eq_some_iff]

theorem Sources.Gives.find?_eq {sources : Sources} {field : SettingField}
    {given : Option SettingValue} (h : sources.Gives field given) :
    sources.find? field = given := by
  rw [find?]
  cases h with
  | override h => rw [h, Option.some_or]
  | environment hoverride h =>
      rw [hoverride, (lastNamed_eq_some_iff _ _ _).mpr h]
      rfl
  | file hoverride hvariable h =>
      rw [hoverride, (lastNamed_eq_none_iff _ _).mpr hvariable,
        (lastNamed_eq_some_iff _ _ _).mpr h]
      rfl
  | nothing hoverride hvariable hfile =>
      rw [hoverride, (lastNamed_eq_none_iff _ _).mpr hvariable,
        (join_lastNamed_eq_none_iff _ _).mpr hfile]
      rfl

/-- Some source decides a setting, or nothing does. -/
theorem Sources.gives_find? (sources : Sources) (field : SettingField) :
    sources.Gives field (sources.find? field) := by
  rw [find?]
  cases hoverride : sources.overrides.lookup field.name with
  | some value => exact .override hoverride
  | none =>
      cases hvariable : lastNamed field.variable sources.environment with
      | some text => exact .environment hoverride ((lastNamed_eq_some_iff _ _ _).mp hvariable)
      | none =>
          have hnone := (lastNamed_eq_none_iff _ _).mp hvariable
          cases hfile : (lastNamed field.variable sources.file).join with
          | some text =>
              exact .file hoverride hnone
                ((lastNamed_eq_some_iff _ _ _).mp (Option.join_eq_some_iff.mp hfile))
          | none => exact .nothing hoverride hnone ((join_lastNamed_eq_none_iff _ _).mp hfile)

theorem Sources.gives_iff (sources : Sources) (field : SettingField)
    (given : Option SettingValue) : sources.Gives field given ↔ sources.find? field = given := by
  constructor
  · exact Gives.find?_eq
  · rintro rfl
    exact sources.gives_find? field

/-! ### What a value asks for -/

/-- Where a text is asked for, a value is taken for this one: a text for itself, and a chain order for
its name. -/
inductive IsTakenFor : SettingValue → CodeText → Prop
  | text (text : CodeText) : IsTakenFor (.json (.text text)) text
  | order (order : ChainOrder) : IsTakenFor (.order order) order.name

theorem text?_eq_some_iff (value : SettingValue) (text : CodeText) :
    value.text? = some text ↔ IsTakenFor value text := by
  constructor
  · intro h
    cases value with
    | order order => exact Option.some.inj h ▸ .order order
    | json value =>
        cases value with
        | text word => exact Option.some.inj h ▸ .text word
        | null | bool | int | decimal | list | object => exact nomatch h
  · rintro ⟨⟩ <;> rfl

theorem text?_eq_none_iff (value : SettingValue) :
    value.text? = none ↔ ∀ text, ¬ IsTakenFor value text := by
  simp only [Option.eq_none_iff_forall_ne_some, ne_eq, text?_eq_some_iff]

/-- The value can be shown as a text. -/
def IsShown : SettingValue → Prop
  | .json value => Json.IsShown Json.maxDepth value
  | .order _ => True

/-- The order that a setting comes to: the given one, the one that text names, or the default. -/
inductive AsksOrder : Option SettingValue → ChainOrder → Prop
  | default : AsksOrder none .rootLast
  | order (order : ChainOrder) : AsksOrder (some (.order order)) order
  | named {text : CodeText} {order : ChainOrder} (h : order.IsNamedBy text) :
      AsksOrder (some (.json (.text text))) order
  | other {value : Json}
      (h : ∀ text, value = .text text → ∀ order : ChainOrder, ¬ order.IsNamedBy text) :
      AsksOrder (some (.json value)) .rootLast

/-- The format that a setting comes to: any text, or the default. -/
inductive AsksFormat : Option SettingValue → CodeText → Prop
  | default : AsksFormat none ""
  | text {value : SettingValue} {text : CodeText} (h : IsTakenFor value text) :
      AsksFormat (some value) text

/-- The level that a setting comes to: the one that text names, or the default. -/
inductive AsksLevel : Option SettingValue → LogLevel → Prop
  | default : AsksLevel none .info
  | named {value : SettingValue} {text : CodeText} {level : LogLevel} (htext : IsTakenFor value text)
      (h : level.IsNamedBy text) : AsksLevel (some value) level

/-- The values that a format and a level cannot have, with the reason. -/
inductive Refuses : SettingField → SettingValue → SettingError → Prop
  | format {value : SettingValue} (h : ∀ text, ¬ IsTakenFor value text) :
      Refuses .keyFormat value .notText
  | level {value : SettingValue} (h : ∀ text, ¬ IsTakenFor value text) :
      Refuses .logLevel value .notText
  | unknownLevel {value : SettingValue} {text : CodeText} (htext : IsTakenFor value text)
      (h : ∀ level : LogLevel, ¬ level.IsNamedBy text) :
      Refuses .logLevel value (.unknownLevel text)

theorem asksOrder_ofText (text : CodeText) :
    AsksOrder (some (.json (.text text))) (ChainOrder.ofText (some text)) := by
  by_cases h : ∃ order : ChainOrder, order.IsNamedBy text
  · obtain ⟨order, hnamed⟩ := h
    rw [hnamed.ofText_eq]
    exact .named hnamed
  · have hunnamed := not_exists.mp h
    rw [ChainOrder.ofText_of_unnamed hunnamed]
    exact .other fun _ htext => Json.text.inj htext ▸ hunnamed

/-- A value that is no text is read if nothing keeps it from being shown. -/
theorem readChainOrder_json {value : Json} (h : ∀ text, value ≠ .text text) :
    readChainOrder (.json value) =
      match value.obstacle? Json.maxDepth with
      | some obstacle => .error obstacle
      | none => .ok .rootLast := by
  cases value with
  | text text => exact absurd rfl (h text)
  | null | bool | int | decimal | list | object => rfl

/-- The order that is read from a value is the one it asks for. -/
theorem asksOrder_of_readChainOrder {value : SettingValue} {order : ChainOrder}
    (h : readChainOrder value = .ok order) : AsksOrder (some value) order := by
  cases value with
  | order asked => exact Except.ok.inj h ▸ .order asked
  | json value =>
      by_cases hvalue : ∃ text, value = .text text
      · obtain ⟨text, rfl⟩ := hvalue
        exact Except.ok.inj h ▸ asksOrder_ofText text
      · have htext := not_exists.mp hvalue
        rw [readChainOrder_json htext] at h
        split at h
        · exact nomatch h
        · exact Except.ok.inj h ▸ .other fun text hsame => absurd hsame (htext text)

/-- A value asks for one order. -/
theorem AsksOrder.unique {given : Option SettingValue} {order other : ChainOrder}
    (h : AsksOrder given order) (hother : AsksOrder given other) : order = other := by
  cases h with
  | default => cases hother; rfl
  | order => cases hother; rfl
  | named h =>
      cases hother with
      | named hother => exact h.ofText_eq.symm.trans hother.ofText_eq
      | other hother => exact absurd h (hother _ rfl _)
  | other h =>
      cases hother with
      | named hother => exact absurd hother (h _ rfl _)
      | other => rfl

/-- A value that can be shown asks for an order, whatever it is. -/
theorem IsShown.exists_readChainOrder {value : SettingValue} (h : IsShown value) :
    ∃ order, readChainOrder value = .ok order := by
  cases value with
  | order order => exact ⟨order, rfl⟩
  | json value =>
      by_cases hvalue : ∃ text, value = .text text
      · obtain ⟨text, rfl⟩ := hvalue
        exact ⟨_, rfl⟩
      · rw [readChainOrder_json (not_exists.mp hvalue), (Json.obstacle?_eq_none_iff _ value).mpr h]
        exact ⟨_, rfl⟩

/-- A result is what is accepted or what is refused, if one of both is known to be there. -/
theorem result_iffs {ε α : Type} {result : Except ε α} {accepted : α → Prop} {refused : ε → Prop}
    (haccepted : ∀ v, accepted v → result = .ok v) (hrefused : ∀ e, refused e → result = .error e)
    (hcases : (∃ v, accepted v) ∨ ∃ e, refused e) :
    (∀ v, result = .ok v ↔ accepted v) ∧ ∀ e, result = .error e ↔ refused e := by
  rcases hcases with ⟨v, hv⟩ | ⟨e, he⟩
  · have hresult := haccepted v hv
    refine ⟨fun w => ⟨fun h => ?_, haccepted w⟩, fun e => ⟨fun h => ?_, hrefused e⟩⟩
    · exact Except.ok.inj (hresult.symm.trans h) ▸ hv
    · exact nomatch hresult.symm.trans h
  · have hresult := hrefused e he
    refine ⟨fun v => ⟨fun h => ?_, haccepted v⟩, fun f => ⟨fun h => ?_, hrefused f⟩⟩
    · exact nomatch hresult.symm.trans h
    · exact Except.error.inj (hresult.symm.trans h) ▸ he

theorem readKeyFormat_iffs (value : SettingValue) :
    (∀ format, readKeyFormat value = .ok format ↔ AsksFormat (some value) format) ∧
      ∀ error, readKeyFormat value = .error error ↔ Refuses .keyFormat value error := by
  apply result_iffs
  · rintro format ⟨⟩
    rename_i h
    rw [readKeyFormat, (text?_eq_some_iff value format).mpr h]
  · rintro error ⟨h⟩
    rw [readKeyFormat, (text?_eq_none_iff value).mpr h]
  · by_cases h : ∃ text, IsTakenFor value text
    · obtain ⟨text, htext⟩ := h
      exact .inl ⟨text, .text htext⟩
    · exact .inr ⟨.notText, .format (not_exists.mp h)⟩

theorem readLogLevel_iffs (value : SettingValue) :
    (∀ level, readLogLevel value = .ok level ↔ AsksLevel (some value) level) ∧
      ∀ error, readLogLevel value = .error error ↔ Refuses .logLevel value error := by
  apply result_iffs
  · rintro level ⟨⟩
    rename_i text htext h
    rw [readLogLevel, (text?_eq_some_iff value text).mpr htext]
    simp only [(LogLevel.bind_ofSetting?_eq_some_iff text level).mpr h]
  · intro error h
    cases h with
    | level h => rw [readLogLevel, (text?_eq_none_iff value).mpr h]
    | @unknownLevel _ text htext h =>
        rw [readLogLevel, (text?_eq_some_iff value text).mpr htext]
        simp only [(LogLevel.bind_ofSetting?_eq_none_iff text).mpr h]
  · by_cases h : ∃ text, IsTakenFor value text
    · obtain ⟨text, htext⟩ := h
      by_cases hlevel : ∃ level : LogLevel, level.IsNamedBy text
      · obtain ⟨level, hlevel⟩ := hlevel
        exact .inl ⟨level, .named htext hlevel⟩
      · exact .inr ⟨_, .unknownLevel htext (not_exists.mp hlevel)⟩
    · exact .inr ⟨.notText, .level (not_exists.mp h)⟩

/-! ### Loading -/

/-- What decides the chain order can be shown as a text. -/
def Sources.ShowsOrder (sources : Sources) : Prop :=
  ∀ value, sources.Gives .chainOrder (some value) → IsShown value

/-- What is given for a setting is refused, for this reason. -/
def Sources.IsRefused (sources : Sources) (field : SettingField) (error : SettingError) : Prop :=
  ∃ value, sources.Gives field (some value) ∧ Refuses field value error

/-- The settings are what the deciding sources ask for. -/
structure Sources.Settles (sources : Sources) (s : Settings) : Prop where
  chainOrder : ∃ given, sources.Gives .chainOrder given ∧ AsksOrder given s.chainOrder
  keyFormat : ∃ given, sources.Gives .keyFormat given ∧ AsksFormat given s.keyFormat
  logLevel : ∃ given, sources.Gives .logLevel given ∧ AsksLevel given s.logLevel

/-- What is read from the sources is the default, or what the given value is read to. -/
theorem Sources.readOr_eq_ok_iff {α : Type} {sources : Sources} {field : SettingField}
    {read : SettingValue → Except SettingError α} {default : α}
    {asks : Option SettingValue → α → Prop}
    (hdefault : ∀ v, default = v ↔ asks none v)
    (hread : ∀ value v, read value = .ok v ↔ asks (some value) v) (v : α) :
    sources.readOr field read default = .ok v ↔
      ∃ given, sources.Gives field given ∧ asks given v := by
  simp only [gives_iff, exists_eq_left']
  rw [readOr]
  cases sources.find? field with
  | none => exact Except.ok.injEq default v ▸ hdefault v
  | some value => exact hread value v

theorem Sources.readOr_eq_error_iff {α : Type} {sources : Sources} {field : SettingField}
    {read : SettingValue → Except SettingError α} {default : α}
    (hread : ∀ value error, read value = .error error ↔ Refuses field value error)
    (error : SettingError) :
    sources.readOr field read default = .error error ↔ sources.IsRefused field error := by
  simp only [IsRefused, gives_iff]
  rw [readOr]
  cases sources.find? field with
  | none =>
      constructor
      · rintro ⟨⟩
      · rintro ⟨_, ⟨⟩, -⟩
  | some value =>
      simp only [Option.some.injEq, exists_eq_left']
      exact hread value error

/-- The errors of the refused settings. -/
def Sources.errors (sources : Sources) : List (String × SettingError) :=
  errorOf .keyFormat (sources.readOr .keyFormat readKeyFormat default.keyFormat) ++
    errorOf .logLevel (sources.readOr .logLevel readLogLevel default.logLevel)

theorem mem_errorOf_iff {α : Type} (field other : SettingField) (result : Except SettingError α)
    (error : SettingError) :
    (field.name, error) ∈ errorOf other result ↔ field = other ∧ result = .error error := by
  cases result with
  | ok v => simp [errorOf]
  | error e => simp [errorOf, SettingField.name_inj, eq_comm]

theorem map_fst_errorOf_sublist {α : Type} (field : SettingField)
    (result : Except SettingError α) :
    ((errorOf field result).map Prod.fst).Sublist [field.name] := by
  cases result with
  | ok v => exact List.nil_sublist _
  | error e => exact List.Sublist.refl _

/-- The refused settings are reported in their order, each of them once. -/
theorem Sources.errors_sublist (sources : Sources) :
    (sources.errors.map Prod.fst).Sublist (SettingField.all.map SettingField.name) := by
  rw [errors, List.map_append]
  exact ((map_fst_errorOf_sublist _ _).append (map_fst_errorOf_sublist _ _)).cons _

theorem Sources.mem_errors_iff (sources : Sources) (field : SettingField) (error : SettingError) :
    (field.name, error) ∈ sources.errors ↔ sources.IsRefused field error := by
  rw [errors, List.mem_append, mem_errorOf_iff, mem_errorOf_iff,
    readOr_eq_error_iff fun value => (readKeyFormat_iffs value).2,
    readOr_eq_error_iff fun value => (readLogLevel_iffs value).2]
  constructor
  · rintro (⟨rfl, h⟩ | ⟨rfl, h⟩)
    · exact h
    · exact h
  · rintro ⟨value, hgives, hrefuses⟩
    cases field with
    | chainOrder => cases hrefuses
    | keyFormat => exact .inl ⟨rfl, value, hgives, hrefuses⟩
    | logLevel => exact .inr ⟨rfl, value, hgives, hrefuses⟩

theorem Sources.errors_ne_nil_iff (sources : Sources) :
    sources.errors ≠ [] ↔ ∃ field error, sources.IsRefused field error := by
  constructor
  · intro h
    obtain ⟨⟨name, error⟩, hmem⟩ := List.exists_mem_of_ne_nil _ h
    have hname : name ∈ sources.errors.map Prod.fst := List.mem_map.mpr ⟨_, hmem, rfl⟩
    obtain ⟨field, -, rfl⟩ := List.mem_map.mp (sources.errors_sublist.subset hname)
    exact ⟨field, error, (sources.mem_errors_iff field error).mp hmem⟩
  · rintro ⟨field, error, h⟩
    exact List.ne_nil_of_mem ((sources.mem_errors_iff field error).mpr h)

theorem Sources.keyFormat_eq_ok_iff (sources : Sources) (format : CodeText) :
    sources.readOr .keyFormat readKeyFormat default.keyFormat = .ok format ↔
      ∃ given, sources.Gives .keyFormat given ∧ AsksFormat given format := by
  apply readOr_eq_ok_iff
  · intro format
    constructor
    · rintro rfl
      exact .default
    · rintro ⟨⟩
      rfl
  · exact fun value => (readKeyFormat_iffs value).1

theorem Sources.logLevel_eq_ok_iff (sources : Sources) (level : LogLevel) :
    sources.readOr .logLevel readLogLevel default.logLevel = .ok level ↔
      ∃ given, sources.Gives .logLevel given ∧ AsksLevel given level := by
  apply readOr_eq_ok_iff
  · intro level
    constructor
    · rintro rfl
      exact .default
    · rintro ⟨⟩
      rfl
  · exact fun value => (readLogLevel_iffs value).1

/-- The order that the sources give for the chain, as it was read, is the one they ask for. -/
theorem Sources.asksOrder_of_chainOrder {sources : Sources} {order : ChainOrder}
    (h : sources.readOr .chainOrder readChainOrder default.chainOrder = .ok order) :
    ∃ given, sources.Gives .chainOrder given ∧ AsksOrder given order := by
  refine ⟨_, sources.gives_find? .chainOrder, ?_⟩
  rw [readOr] at h
  cases hfind : sources.find? .chainOrder with
  | none =>
      rw [hfind] at h
      exact Except.ok.inj h ▸ .default
  | some value =>
      rw [hfind] at h
      exact asksOrder_of_readChainOrder h

theorem Sources.ShowsOrder.exists_chainOrder {sources : Sources} (h : sources.ShowsOrder) :
    ∃ order, sources.readOr .chainOrder readChainOrder default.chainOrder = .ok order := by
  rw [readOr]
  cases hfind : sources.find? .chainOrder with
  | none => exact ⟨_, rfl⟩
  | some value => exact (h value ((sources.gives_iff .chainOrder _).mpr hfind)).exists_readChainOrder

/-- What loading does once the chain order is read: what is left to refuse is reported together. -/
theorem load_of_chainOrder {sources : Sources} {order : ChainOrder}
    (h : sources.readOr .chainOrder readChainOrder default.chainOrder = .ok order) :
    load sources =
      match sources.readOr .keyFormat readKeyFormat default.keyFormat,
        sources.readOr .logLevel readLogLevel default.logLevel with
      | .ok format, .ok level => .success ⟨order, format, level⟩
      | _, _ =>
          .failure ⟨.configurationError, "Invalid pem-collection configuration",
            some (.settings sources.errors)⟩ := by
  have hcheck : check sources =
      match sources.readOr .keyFormat readKeyFormat default.keyFormat,
        sources.readOr .logLevel readLogLevel default.logLevel with
      | .ok format, .ok level => .ok ⟨order, format, level⟩
      | _, _ => .error (.settings sources.errors) := by
    rw [check, h, Sources.errors]
    cases sources.readOr .keyFormat readKeyFormat default.keyFormat <;>
      cases sources.readOr .logLevel readLogLevel default.logLevel <;> rfl
  rw [load, hcheck]
  cases sources.readOr .keyFormat readKeyFormat default.keyFormat <;>
    cases sources.readOr .logLevel readLogLevel default.logLevel <;> rfl

/-- Settings are loaded only with a chain order that was read. -/
theorem chainOrder_of_load {sources : Sources} {s : Settings} (h : load sources = .success s) :
    ∃ order, sources.readOr .chainOrder readChainOrder default.chainOrder = .ok order := by
  have hcheck : check sources = .ok s := (Outcome.ofExcept_eq_success_iff _ _ _ _).mp h
  rw [check, bind_eq_ok_iff] at hcheck
  obtain ⟨result, hresult, hrest⟩ := hcheck
  cases hread : sources.readOr .chainOrder readChainOrder default.chainOrder with
  | ok order => exact ⟨order, rfl⟩
  | error obstacle =>
      cases obstacle with
      | tooDeep =>
          rw [hread] at hresult
          exact nomatch hresult
      | tooManyDigits =>
          rw [hread] at hresult
          obtain rfl := Except.ok.inj hresult
          exact nomatch hrest

theorem settles_of_load {sources : Sources} {s : Settings} (h : load sources = .success s) :
    sources.Settles s := by
  obtain ⟨order, horder⟩ := chainOrder_of_load h
  rw [load_of_chainOrder horder] at h
  split at h
  · rename_i format level hformat hlevel
    obtain rfl := Outcome.success.inj h
    exact ⟨sources.asksOrder_of_chainOrder horder, (sources.keyFormat_eq_ok_iff _).mp hformat,
      (sources.logLevel_eq_ok_iff _).mp hlevel⟩
  · exact nomatch h

theorem Sources.Settles.load_eq {sources : Sources} {s : Settings} (h : sources.Settles s)
    (hshows : sources.ShowsOrder) : load sources = .success s := by
  obtain ⟨⟨given, hgiven, hasks⟩, hformat, hlevel⟩ := h
  obtain ⟨order, horder⟩ := hshows.exists_chainOrder
  obtain ⟨other, hother, hread⟩ := sources.asksOrder_of_chainOrder horder
  rw [load_of_chainOrder horder, (sources.keyFormat_eq_ok_iff _).mpr hformat,
    (sources.logLevel_eq_ok_iff _).mpr hlevel]
  obtain rfl := ((sources.gives_iff _ _).mp hgiven).symm.trans ((sources.gives_iff _ _).mp hother)
  rw [hread.unique hasks]

/-- Loading fails in one way. -/
theorem code_of_load {sources : Sources} {failure : Failure}
    (h : load sources = .failure failure) :
    failure.code = .configurationError ∧
      failure.message = "Invalid pem-collection configuration" := by
  rw [load] at h
  cases hcheck : check sources with
  | ok s =>
      rw [hcheck] at h
      exact nomatch h
  | error fault =>
      rw [hcheck] at h
      obtain rfl := Outcome.failure.inj h
      exact ⟨rfl, rfl⟩

/-- With a chain order that is read, all refusals are reported together. -/
theorem Sources.ShowsOrder.eq_of_load_eq_failure {sources : Sources} (h : sources.ShowsOrder)
    {failure : Failure} (hload : load sources = .failure failure) :
    failure = ⟨.configurationError, "Invalid pem-collection configuration",
      some (.settings sources.errors)⟩ := by
  obtain ⟨order, horder⟩ := h.exists_chainOrder
  rw [load_of_chainOrder horder] at hload
  split at hload
  · exact nomatch hload
  · exact (Outcome.failure.inj hload).symm

theorem Sources.ShowsOrder.exists_load_eq_failure_iff {sources : Sources}
    (h : sources.ShowsOrder) :
    (∃ failure, load sources = .failure failure) ↔ sources.errors ≠ [] := by
  obtain ⟨order, horder⟩ := h.exists_chainOrder
  rw [load_of_chainOrder horder, Sources.errors]
  cases sources.readOr .keyFormat readKeyFormat default.keyFormat <;>
    cases sources.readOr .logLevel readLogLevel default.logLevel <;> simp [errorOf]

/-! ### Overrides -/

/-- The sources with one more override. -/
def Sources.override (sources : Sources) (field : SettingField) (value : SettingValue) : Sources :=
  { sources with overrides := (field.name, value) :: sources.overrides }

theorem Sources.find?_override_self (sources : Sources) (field : SettingField)
    (value : SettingValue) : (sources.override field value).find? field = some value := by
  rw [find?, override, List.lookup_cons_self, Option.some_or]

theorem Sources.find?_override_of_ne (sources : Sources) {field other : SettingField}
    (h : other ≠ field) (value : SettingValue) :
    (sources.override field value).find? other = sources.find? other := by
  have hname : (other.name == field.name) = false :=
    beq_false_of_ne fun hname => h (SettingField.name_inj.mp hname)
  simp only [find?, override, List.lookup_cons, hname]

/-- An override of the chain order, as far as it can be shown, changes the chain order and nothing
else. -/
theorem Sources.ShowsOrder.load_override {sources : Sources} (h : sources.ShowsOrder)
    {value : SettingValue} (hvalue : IsShown value) :
    ∃ order, AsksOrder (some value) order ∧
      load (sources.override .chainOrder value) =
        (load sources).map fun s => { s with chainOrder := order } := by
  obtain ⟨before, hbefore⟩ := h.exists_chainOrder
  obtain ⟨order, horder⟩ := hvalue.exists_readChainOrder
  have hread : (sources.override .chainOrder value).readOr .chainOrder readChainOrder
      default.chainOrder = .ok order := by
    rw [readOr, find?_override_self]
    exact horder
  have hformat : (sources.override .chainOrder value).find? .keyFormat = sources.find? .keyFormat :=
    sources.find?_override_of_ne (by decide) value
  have hlevel : (sources.override .chainOrder value).find? .logLevel = sources.find? .logLevel :=
    sources.find?_override_of_ne (by decide) value
  refine ⟨order, asksOrder_of_readChainOrder horder, ?_⟩
  rw [load_of_chainOrder hread, load_of_chainOrder hbefore]
  simp only [errors, readOr, hformat, hlevel]
  split <;> rfl

/-- The settings, given back as overrides. -/
def asOverrides (s : Settings) : List (String × SettingValue) :=
  [(SettingField.chainOrder.name, .order s.chainOrder),
    (SettingField.keyFormat.name, .json (.text s.keyFormat)),
    (SettingField.logLevel.name, .json (.text s.logLevel.settingName))]

/-- Settings that are given back are loaded again, whatever the other sources hold. -/
theorem load_asOverrides (s : Settings) (environment : List (CodeText × CodeText))
    (file : List (CodeText × Option CodeText)) :
    load ⟨s.asOverrides, environment, file⟩ = .success s := by
  have hsettles : Sources.Settles ⟨s.asOverrides, environment, file⟩ s :=
    ⟨⟨_, .override rfl, .order s.chainOrder⟩, ⟨_, .override rfl, .text (.text s.keyFormat)⟩,
      ⟨_, .override rfl, .named (.text _) s.logLevel.isNamedBy_settingName⟩⟩
  apply hsettles.load_eq
  intro value hvalue
  have hgiven := (Sources.gives_iff _ _ _).mp hvalue
  obtain rfl : .order s.chainOrder = value := Option.some.inj hgiven
  exact trivial

/-- Each setting is decided by one source. What is loaded is what the deciding sources ask for, and
is loaded again when it is given back as overrides. As long as what decides the chain order can be
shown as a text, settings are loaded exactly if they are what the deciding sources ask for; loading
fails exactly if what decides a format or a level is refused, and the failure then reports the refused
settings and no others, each once and in their order; and another override of the chain order changes
nothing but the chain order. -/
theorem load_decided (sources : Sources) :
    (∀ field, ∃ given, ∀ other, sources.Gives field other ↔ given = other) ∧
    (∀ s, load sources = .success s → sources.Settles s ∧ ∀ environment file,
      load ⟨s.asOverrides, environment, file⟩ = .success s) ∧
    (∀ failure, load sources = .failure failure → failure.code = .configurationError ∧
      failure.message = "Invalid pem-collection configuration") ∧
    (sources.ShowsOrder →
      (∀ s, sources.Settles s → load sources = .success s) ∧
      ((∃ failure, load sources = .failure failure) ↔
        ∃ field error, sources.IsRefused field error) ∧
      (∀ failure, load sources = .failure failure → ∃ errors,
        failure = ⟨.configurationError, "Invalid pem-collection configuration",
          some (.settings errors)⟩ ∧
        (errors.map Prod.fst).Sublist (SettingField.all.map SettingField.name) ∧
        ∀ field error, (field.name, error) ∈ errors ↔ sources.IsRefused field error) ∧
      ∀ value, IsShown value → ∃ order, AsksOrder (some value) order ∧
        load (sources.override .chainOrder value) =
          (load sources).map fun s => { s with chainOrder := order }) := by
  refine ⟨fun field => ⟨_, sources.gives_iff field⟩, ?_, fun _ => code_of_load, ?_⟩
  · intro s hs
    exact ⟨settles_of_load hs, load_asOverrides s⟩
  · intro hshows
    refine ⟨fun s hs => hs.load_eq hshows, ?_, ?_, fun _ => hshows.load_override⟩
    · rw [hshows.exists_load_eq_failure_iff, Sources.errors_ne_nil_iff]
    · intro failure hfailure
      obtain rfl := hshows.eq_of_load_eq_failure hfailure
      exact ⟨_, rfl, sources.errors_sublist, sources.mem_errors_iff⟩

/-- Sources that disagree: an override with nothing, a variable that is set twice, and a name in the
file whose last entry has no value. -/
def layeredSources : Sources where
  overrides := [("chain_order", .json .null)]
  environment := [("PEM_COLLECTION_CHAIN_ORDER", "ignore"), ("Pem_Collection_Log_Level", "loud"),
    ("PEM_COLLECTION_LOG_LEVEL", " Error\n")]
  file := [("PEM_COLLECTION_KEY_FORMAT", some (.unicode "pkcs8")), ("pem_collection_key_format", none),
    ("PEM_COLLECTION_LOG_LEVEL", some (.unicode "debug"))]

/-- Overrides that are refused, above a variable that would not be. -/
def refusedSources : Sources where
  overrides := [("log_level", .order .ignore), ("key_format", .json (.int 1)),
    ("chain_order", .json (.list []))]
  environment := [("PEM_COLLECTION_KEY_FORMAT", "pkcs8")]
  file := []

theorem load_decided_layered :
    layeredSources.Settles ⟨.rootLast, "", .error⟩ ∧
      load ⟨asOverrides ⟨.rootLast, "", .error⟩, [("PEM_COLLECTION_LOG_LEVEL", "loud")], []⟩ =
        .success ⟨.rootLast, "", .error⟩ ∧
      refusedSources.ShowsOrder ∧
      load refusedSources = .failure
        ⟨.configurationError, "Invalid pem-collection configuration",
          some (.settings [("key_format", .notText), ("log_level", .unknownLevel "ignore")])⟩ ∧
      refusedSources.IsRefused .keyFormat .notText ∧
      refusedSources.IsRefused .logLevel (.unknownLevel "ignore") := by
  have hload : load layeredSources = .success ⟨.rootLast, "", .error⟩ := by rfl
  have hfailure : load refusedSources = .failure
      ⟨.configurationError, "Invalid pem-collection configuration",
        some (.settings [("key_format", .notText), ("log_level", .unknownLevel "ignore")])⟩ := by rfl
  have hshows : refusedSources.ShowsOrder := by
    intro value hvalue
    have hgiven := (refusedSources.gives_iff _ _).mp hvalue
    obtain rfl : .json (.list []) = value := Option.some.inj hgiven
    exact .list (List.forall_mem_nil _)
  obtain ⟨hsettles, hagain⟩ := (load_decided layeredSources).2.1 _ hload
  obtain ⟨-, -, hrefused, -⟩ := (load_decided refusedSources).2.2.2 hshows
  obtain ⟨errors, herrors, -, hmem⟩ := hrefused _ hfailure
  obtain rfl := Fault.settings.inj (Option.some.inj (Failure.mk.inj herrors).2.2)
  exact ⟨hsettles, hagain _ _, hshows, hfailure,
    (hmem .keyFormat _).mp (.head _), (hmem .logLevel _).mp (.tail _ (.head _))⟩

/-- A power of ten with too many digits is refused as a chain order. -/
theorem load_of_long_order {digits : Nat} (h : Json.maxDigits ≤ digits) :
    load ⟨[("chain_order", .json (.int (10 ^ digits)))], [], []⟩ =
      .failure ⟨.configurationError, "Invalid pem-collection configuration",
        some (.settings [("chain_order", .tooManyDigits)])⟩ := by
  have hlong : Json.maxDigits < (Nat.toDigits 10 (10 ^ digits : Int).natAbs).length := by
    rw [← Nat.not_le, Nat.length_toDigits_le_iff (by decide) (by decide), Int.natAbs_pow]
    exact Nat.not_lt.mpr (Nat.pow_le_pow_right (by decide) h)
  have htext : ∀ text, Json.int (10 ^ digits) ≠ .text text := fun _ htext => nomatch htext
  have hread : readChainOrder (.json (.int (10 ^ digits))) = .error .tooManyDigits := by
    rw [readChainOrder_json htext, Json.obstacle?, if_pos hlong]
  have horder : Sources.readOr ⟨[("chain_order", .json (.int (10 ^ digits)))], [], []⟩ .chainOrder
      readChainOrder default.chainOrder = .error .tooManyDigits := hread
  rw [load, check, horder]
  rfl

/-- A chain order is no text, and yet a format is taken from it; and a number can be too long to be
read as a chain order. -/
theorem order_taken_for_format :
    load ⟨[("key_format", .order .ignore)], [], []⟩ = .success ⟨.rootLast, "ignore", .info⟩ ∧
      ∃ failure,
        load ⟨[("chain_order", .json (.int (10 ^ 5000)))], [], []⟩ = .failure failure :=
  ⟨rfl, _, load_of_long_order (by decide)⟩

end Settings

end PemBundle
