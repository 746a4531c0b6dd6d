import Csms.Branding.Config
import Csms.Service.Program

/-!
# Fields that are normalized again

A stored configuration is normalized whenever it is read.
-/

namespace Csms.Branding

open Js Service

/-- What is relied on of the language; of a URL, that it is written as it is read. -/
structure Runtime.Lawful (runtime : Runtime) : Prop where
  href {text : String} {url : ParsedUrl} : runtime.parseUrl text = some url → isHttp url →
    trim url.href = url.href ∧ url.href ≠ "" ∧ runtime.parseUrl url.href = some url
  origin {text origin : String} {url : ParsedUrl} : runtime.parseUrl text = some url →
    isHttp url → origin = url.protocol ++ "//" ++ url.host →
    trim origin = origin ∧ runtime.toLowerCase origin = origin ∧
      ∃ href, runtime.parseUrl origin = some { url with href }
  lower (text : String) : runtime.toLowerCase (runtime.toLowerCase text) = runtime.toLowerCase text
  trimmed (text : String) : trim (runtime.toLowerCase (trim text)) = runtime.toLowerCase (trim text)
  email {text : String} : isEmail text = true → isEmail (runtime.toLowerCase text) = true

/-- What is accepted is accepted again, unchanged. -/
def Retracts {α : Type} (normalize : JsValue → Checked α) (toJson : α → JsValue) : Prop :=
  ∀ value result, normalize value = .ok result → normalize (toJson result) = .ok result

/-- The lower case of an address is not measured, and can be longer than the address. -/
structure NormalizersRetract (runtime : Runtime) (field : String) : Prop where
  required (limit : Nat) : Retracts (normalizeRequiredString · field limit) .string
  short (limit : Nat) : Retracts (normalizeNullableShortString · field limit) nullable
  url : Retracts (normalizeOptionalUrl runtime · field) nullable
  domain : Retracts (normalizeDomain runtime) nullable
  origins (allowDropInvalid : Bool) : Retracts (normalizeOrigins runtime · field allowDropInvalid)
    fun origins => .array (origins.map .string)
  email {value : JsValue} {result : Option String} :
    normalizeOptionalEmail runtime value field = .ok result →
      (normalizeOptionalEmail runtime (nullable result) field = .ok result ↔
        ∀ text ∈ result, length text ≤ 200)

section Normalizers

variable {runtime : Runtime} {field : String} (lawful : runtime.Lawful)
include lawful

theorem normalizeOrigin_normalized {text origin : String}
    (accepted : normalizeOrigin runtime text = .ok origin) :
    normalizeOrigin runtime origin = .ok origin := by
  unfold normalizeOrigin at *
  split at accepted
  · cases accepted
  split at accepted
  · cases accepted
  rename_i url isUrl
  split at accepted
  · rename_i http
    obtain ⟨trimmed, lower, href, again⟩ := lawful.origin isUrl http rfl
    obtain rfl := Except.ok.inj accepted
    simp only [lower, trimmed, again]
    exact (if_neg (by simp)).trans (if_pos http)
  · cases accepted

theorem distinctOrigins_normalized {drop : Bool} {entries : List JsValue}
    {kept origins : List String}
    (accepted : distinctOrigins runtime field drop kept entries = .ok origins)
    (fixed : ∀ origin ∈ kept, normalizeOrigin runtime origin = .ok origin) (nodup : kept.Nodup) :
    (∀ origin ∈ origins, normalizeOrigin runtime origin = .ok origin) ∧ origins.Nodup := by
  fun_induction distinctOrigins <;> grind [normalizeOrigin_normalized, reject]

omit lawful in
theorem distinctOrigins_of_normalized {drop : Bool} (kept : List String) {origins : List String}
    (fixed : ∀ origin ∈ origins, normalizeOrigin runtime origin = .ok origin)
    (nodup : (kept ++ origins).Nodup) :
    distinctOrigins runtime field drop kept (origins.map .string) = .ok (kept ++ origins) := by
  induction origins generalizing kept with
  | nil => simp [distinctOrigins]
  | cons origin origins ih => grind [distinctOrigins]

theorem retracts_normalizeOrigins (drop : Bool) : Retracts (normalizeOrigins runtime · field drop)
    fun origins => .array (origins.map .string) := by
  intro value origins accepted
  simp only [normalizeOrigins] at accepted ⊢
  split at accepted
  · obtain ⟨kept, isDistinct, few⟩ := bind_eq_ok_iff.mp accepted
    obtain rfl : kept = origins := by
      split at few
      · cases few
      · exact Except.ok.inj few
    obtain ⟨fixed, nodup⟩ := distinctOrigins_normalized lawful isDistinct (by simp) List.nodup_nil
    exact bind_eq_ok_iff.mpr ⟨kept, distinctOrigins_of_normalized [] fixed nodup, few⟩
  · cases accepted

theorem normalizersRetract (field : String) : NormalizersRetract runtime field where
  required limit value result accepted := by
    unfold normalizeRequiredString reject at *
    grind [trim_trim]
  short limit value result accepted := by
    unfold normalizeNullableShortString reject at *
    grind [nullable, trim_trim]
  url value result accepted := by
    unfold normalizeOptionalUrl reject at *
    grind [nullable, lawful.href]
  domain value result accepted := by
    unfold normalizeDomain reject at *
    grind [nullable, lawful.trimmed, lawful.lower]
  origins := retracts_normalizeOrigins lawful
  email {value result} accepted := by
    have notEmpty : isEmail "" = false := rfl
    simp only [normalizeOptionalEmail, bind_eq_ok_iff, normalizeNullableShortString, reject, pure,
      Except.pure] at *
    grind [nullable, trim_trim, lawful.trimmed, lawful.lower, lawful.email]

end Normalizers

namespace Sample

def web : Runtime where
  parseUrl text :=
    if text = "https://a.io" ∨ text = "https://a.io/" then
      some ⟨"https:", "a.io", "https://a.io/"⟩
    else none
  parseDate _ := none
  toISOString _ := ""
  toLowerCase := id

theorem lawful_web : web.Lawful where
  href isUrl _ := by
    cases (Option.ite_none_right_eq_some.mp isUrl).2
    exact ⟨by decide, by decide, rfl⟩
  origin isUrl _ isOrigin := by
    cases (Option.ite_none_right_eq_some.mp isUrl).2
    subst isOrigin
    exact ⟨by decide, rfl, _, rfl⟩
  lower _ := rfl
  trimmed := trim_trim
  email isEmail := isEmail

end Sample

theorem normalizersRetract_web : NormalizersRetract Sample.web "branding.logoUrl" :=
  normalizersRetract Sample.lawful_web "branding.logoUrl"

end Csms.Branding
