import EquationTutor.Json.Solution
import EquationTutor.Proofs.Json.Values
/-!
A solution is read back from what is written of it just if all of its numbers are finite.
-/

namespace EquationTutor

section Numbers

variable {α : Type}

/-- The numbers of a detail, in the order in which they are written. -/
def QuadraticDetail.numbers (d : QuadraticDetail α) : List α :=
  [d.a, d.b, d.c, d.discriminant, d.vertex.x, d.vertex.y, d.axisOfSymmetry, d.yIntercept,
    d.sumOfRoots, d.productOfRoots]

def ProjectileDetail.numbers (d : ProjectileDetail α) : List α :=
  [d.gravity, d.initialVelocity, d.initialHeight] ++ d.targetHeight.toList ++
    d.targetDiscriminant.toList ++ d.targetTimes ++ [d.timeToMaxHeight, d.maxHeight] ++
    d.flightTime.toList

def VertexDetail.numbers (d : VertexDetail α) : List α :=
  d.quadratic.numbers ++ d.range.endPoints ++ d.xIntercepts

def FactoringDetail.numbers (d : FactoringDetail α) : List α :=
  d.commonFactor.toList ++ d.pair.toList.flatMap (fun p => [p.1, p.2]) ++ d.quadratic.numbers

def SquareDetail.numbers (d : SquareDetail α) : List α :=
  [d.a, d.b, d.c, d.bOverA, d.cOverA, d.halfB, d.halfBSquared, d.remainder, d.vertex.x, d.vertex.y]

def TestPoint.numbers (t : TestPoint α) : List α :=
  t.interval.endPoints ++ [t.point, t.value]

def QuadraticInequalityDetail.numbers (d : QuadraticInequalityDetail α) : List α :=
  [d.a, d.b, d.c, d.discriminant] ++ d.criticalPoints ++ d.tests.flatMap TestPoint.numbers

def LinearInequalityDetail.numbers (d : LinearInequalityDetail α) : List α :=
  [d.m, d.b, d.c] ++ d.boundary.toList

def ExponentialInequalityDetail.numbers (d : ExponentialInequalityDetail α) : List α :=
  [d.coefficient, d.base, d.bound, d.lnBase] ++ d.criticalValue.toList

def ExponentialQuadraticDetail.numbers (d : ExponentialQuadraticDetail α) : List α :=
  [d.a, d.b, d.c, d.base, d.discriminant] ++ d.uRoots ++ d.rejected

def GrowthLaw.numbers : GrowthLaw α → List α
  | periodic n => [n]
  | continuous => []

def GrowthDetail.numbers (d : GrowthDetail α) : List α :=
  d.law.numbers ++ [d.principal, d.finalAmount, d.rate, d.time, d.factor] ++ d.interest.toList ++
    d.characteristicTime.toList

def HalfLifeDetail.numbers (d : HalfLifeDetail α) : List α :=
  [d.characteristicTime, d.k] ++ d.initial.toList ++ d.time.toList ++ d.amount.toList

def SystemDetail.numbers (d : SystemDetail α) : List α :=
  [d.a1, d.b1, d.c1, d.a2, d.b2, d.c2, d.determinant, d.detX, d.detY]

def Detail.numbers : Detail α → List α
  | quadratic d => d.numbers
  | factoring d => d.numbers
  | completingSquare d => d.numbers
  | quadraticInequality d => d.numbers
  | projectile d => d.numbers
  | vertexAnalysis d => d.numbers
  | linearInequality d => d.numbers
  | exponentialInequality d => d.numbers
  | exponentialQuadratic d => d.numbers
  | exponential d => [d.coefficient, d.base, d.rate, d.result, d.isolated]
  | logarithmic d => [d.base, d.result]
  | growth d => d.numbers
  | halfLife d => d.numbers
  | linear d => [d.m, d.b, d.c]
  | system d => d.numbers

def Solution.numbers (s : Solution α) : List α :=
  s.set.writtenNumbers ++ s.detail.numbers

end Numbers

section Reading

open Json (ofKey?_str orNull?_ofOption_iff toList?_ofList_iff)

attribute [local simp] Json.number? Json.numbers? Json.optionalNumber? Json.string? Json.strings?
  Json.boolean? Json.field? Json.ofFloats Option.bind_eq_some_iff

variable {tag : Json}

@[simp]
theorem RootNature.ofKey?_key (place : Json.Place) (nature : RootNature) :
    Json.ofKey? place key all (.str nature.key) = some nature :=
  ofKey?_str nature (by cases nature <;> decide) (by cases nature <;> decide)

@[simp]
theorem UnitSystem.ofKey?_key (place : Json.Place) (units : UnitSystem) :
    Json.ofKey? place key all (.str units.key) = some units :=
  ofKey?_str units (by cases units <;> decide) (by cases units <;> decide)

@[simp]
theorem Extremum.ofKey?_label (place : Json.Place) (extremum : Extremum) :
    Json.ofKey? place label all (.str extremum.label) = some extremum :=
  ofKey?_str extremum (by cases extremum <;> decide) (by cases extremum <;> decide)

@[simp]
theorem Trend.ofKey?_label (place : Json.Place) (trend : Trend) :
    Json.ofKey? place label all (.str trend.label) = some trend :=
  ofKey?_str trend (by cases trend <;> decide) (by cases trend <;> decide)

@[simp]
theorem Quantity.ofKey?_key (place : Json.Place) (quantity : Quantity) :
    Json.ofKey? place key all (.str quantity.key) = some quantity :=
  ofKey?_str quantity (by cases quantity <;> decide) (by cases quantity <;> decide)

@[simp]
theorem Point.ofJson?_toJson_iff (p : Point Float) :
    Point.ofJson? p.toJson = some p ↔ p.x.isFinite = true ∧ p.y.isFinite = true := by
  rcases p with ⟨x, y⟩
  simp [Point.ofJson?, Point.toJson]

theorem QuadraticDetail.ofJson?_cons_detail (fields : List (String × Json)) :
    QuadraticDetail.ofJson? (.obj (("detail", tag) :: fields)) =
      QuadraticDetail.ofJson? (.obj fields) := by
  simp [QuadraticDetail.ofJson?]

theorem QuadraticDetail.ofJson?_fields_iff (d : QuadraticDetail Float) :
    QuadraticDetail.ofJson? (.obj d.fields) = some d ↔ ∀ x ∈ d.numbers, x.isFinite = true := by
  rcases d with ⟨⟩
  simp [QuadraticDetail.ofJson?, QuadraticDetail.fields, QuadraticDetail.numbers, and_assoc]

theorem ProjectileDetail.ofJson?_fields_iff (d : ProjectileDetail Float) :
    ProjectileDetail.ofJson? (.obj (("detail", tag) :: d.fields)) = some d ↔
      ∀ x ∈ d.numbers, x.isFinite = true := by
  rcases d with ⟨⟩
  simp only [ProjectileDetail.numbers, List.forall_mem_append]
  simp [ProjectileDetail.ofJson?, ProjectileDetail.fields, and_assoc]

theorem VertexDetail.ofJson?_fields_iff (d : VertexDetail Float) :
    VertexDetail.ofJson? (.obj (("detail", tag) :: d.fields)) = some d ↔
      ∀ x ∈ d.numbers, x.isFinite = true := by
  rcases d with ⟨_, _, _, requested, _, _, _⟩
  have hrequested : Json.orNull? (Json.ofKey? .inTagged Extremum.label Extremum.all)
      (Json.ofOption (fun e => .str e.label) requested) = some requested :=
    (orNull?_ofOption_iff rfl requested).mpr (by simp)
  simp only [VertexDetail.numbers, List.forall_mem_append]
  simp [VertexDetail.ofJson?, VertexDetail.fields, QuadraticDetail.ofJson?_fields_iff, hrequested,
    and_assoc]

theorem FactoringDetail.ofJson?_fields_iff (d : FactoringDetail Float) :
    FactoringDetail.ofJson? (.obj (("detail", tag) :: d.fields)) = some d ↔
      ∀ x ∈ d.numbers, x.isFinite = true := by
  rcases d with ⟨_, pair, form, _⟩
  have hpair : Json.orNull? pairOfJson? (Json.ofOption (fun p => Json.ofFloats [p.1, p.2]) pair) =
      some pair ↔ ∀ x ∈ pair.toList.flatMap (fun p => [p.1, p.2]), x.isFinite = true := by
    rw [orNull?_ofOption_iff rfl]
    cases pair with
    | none => simp
    | some p => simp [pairOfJson?, Json.ofList, Prod.ext_iff]
  have hform : Json.orNull? Json.toString? (Json.ofOption .str form) = some form :=
    (orNull?_ofOption_iff rfl form).mpr (by simp)
  simp only [FactoringDetail.numbers, List.forall_mem_append, ← hpair]
  simp [FactoringDetail.ofJson?, FactoringDetail.fields, QuadraticDetail.ofJson?_fields_iff, hform,
    and_assoc, -Json.ofFloats]

theorem SquareDetail.ofJson?_fields_iff (d : SquareDetail Float) :
    SquareDetail.ofJson? (.obj (("detail", tag) :: d.fields)) = some d ↔
      ∀ x ∈ d.numbers, x.isFinite = true := by
  rcases d with ⟨⟩
  simp [SquareDetail.ofJson?, SquareDetail.fields, SquareDetail.numbers]

theorem TestPoint.ofJson?_toJson_iff (t : TestPoint Float) :
    TestPoint.ofJson? t.toJson = some t ↔ ∀ x ∈ t.numbers, x.isFinite = true := by
  rcases t with ⟨⟩
  simp only [TestPoint.numbers, List.forall_mem_append]
  simp [TestPoint.ofJson?, TestPoint.toJson]

theorem QuadraticInequalityDetail.ofJson?_fields_iff (d : QuadraticInequalityDetail Float) :
    QuadraticInequalityDetail.ofJson? (.obj (("detail", tag) :: d.fields)) = some d ↔
      ∀ x ∈ d.numbers, x.isFinite = true := by
  rcases d with ⟨⟩
  simp only [QuadraticInequalityDetail.numbers, List.forall_mem_append, List.forall_mem_flatMap]
  simp [QuadraticInequalityDetail.ofJson?, QuadraticInequalityDetail.fields, toList?_ofList_iff,
    TestPoint.ofJson?_toJson_iff, and_assoc]

theorem LinearInequalityDetail.ofJson?_fields_iff (d : LinearInequalityDetail Float) :
    LinearInequalityDetail.ofJson? (.obj (("detail", tag) :: d.fields)) = some d ↔
      ∀ x ∈ d.numbers, x.isFinite = true := by
  rcases d with ⟨⟩
  simp only [LinearInequalityDetail.numbers, List.forall_mem_append]
  simp [LinearInequalityDetail.ofJson?, LinearInequalityDetail.fields, and_assoc]

theorem ExponentialInequalityDetail.ofJson?_fields_iff (d : ExponentialInequalityDetail Float) :
    ExponentialInequalityDetail.ofJson? (.obj (("detail", tag) :: d.fields)) = some d ↔
      ∀ x ∈ d.numbers, x.isFinite = true := by
  rcases d with ⟨⟩
  simp only [ExponentialInequalityDetail.numbers, List.forall_mem_append]
  simp [ExponentialInequalityDetail.ofJson?, ExponentialInequalityDetail.fields, and_assoc]

theorem ExponentialQuadraticDetail.ofJson?_fields_iff (d : ExponentialQuadraticDetail Float) :
    ExponentialQuadraticDetail.ofJson? (.obj (("detail", tag) :: d.fields)) = some d ↔
      ∀ x ∈ d.numbers, x.isFinite = true := by
  rcases d with ⟨⟩
  simp only [ExponentialQuadraticDetail.numbers, List.forall_mem_append]
  simp [ExponentialQuadraticDetail.ofJson?, ExponentialQuadraticDetail.fields, and_assoc]

@[simp]
theorem GrowthLaw.ofJson?_toJson_iff (place : Json.Place) (law : GrowthLaw Float) :
    GrowthLaw.ofJson? place law.toJson = some law ↔ ∀ x ∈ law.numbers, x.isFinite = true := by
  cases law <;> cases place <;>
    simp [GrowthLaw.ofJson?, GrowthLaw.toJson, GrowthLaw.numbers, Json.tagged?, Json.Place.tag?]

theorem GrowthDetail.ofJson?_fields_iff (d : GrowthDetail Float) :
    GrowthDetail.ofJson? (.obj (("detail", tag) :: d.fields)) = some d ↔
      ∀ x ∈ d.numbers, x.isFinite = true := by
  rcases d with ⟨⟩
  simp only [GrowthDetail.numbers, List.forall_mem_append]
  simp [GrowthDetail.ofJson?, GrowthDetail.fields, and_assoc]

theorem HalfLifeDetail.ofJson?_fields_iff (d : HalfLifeDetail Float) :
    HalfLifeDetail.ofJson? (.obj (("detail", tag) :: d.fields)) = some d ↔
      ∀ x ∈ d.numbers, x.isFinite = true := by
  rcases d with ⟨⟩
  simp only [HalfLifeDetail.numbers, List.forall_mem_append]
  simp [HalfLifeDetail.ofJson?, HalfLifeDetail.fields, and_assoc]

theorem SystemDetail.ofJson?_fields_iff (d : SystemDetail Float) :
    SystemDetail.ofJson? (.obj (("detail", tag) :: d.fields)) = some d ↔
      ∀ x ∈ d.numbers, x.isFinite = true := by
  rcases d with ⟨⟩
  simp [SystemDetail.ofJson?, SystemDetail.fields, SystemDetail.numbers]

theorem Detail.tagged?_toJson (d : Detail Float) :
    d.toJson.tagged? .alone "detail" tags = some (d.tag, d.toJson) := by
  cases d <;> simp [Detail.toJson, Detail.tag, Json.tagged?, Json.Place.tag?, tags]

/-- Each method is read back as what it was written for. -/
theorem Detail.ofJson?_toJson_iff (d : Detail Float) :
    Detail.ofJson? d.toJson = some d ↔ ∀ x ∈ d.numbers, x.isFinite = true := by
  rw [Detail.ofJson?, Detail.tagged?_toJson]
  cases d with
  | quadratic d =>
      simp [Detail.ofTag?, Detail.tag, Detail.toJson, Detail.fields, Detail.numbers,
        QuadraticDetail.ofJson?_cons_detail, QuadraticDetail.ofJson?_fields_iff]
  | exponential d =>
      rcases d with ⟨⟩
      simp [Detail.ofTag?, Detail.tag, Detail.toJson, Detail.fields, Detail.numbers,
        ExponentialDetail.ofJson?, ExponentialDetail.fields]
  | logarithmic d =>
      rcases d with ⟨⟩
      simp [Detail.ofTag?, Detail.tag, Detail.toJson, Detail.fields, Detail.numbers,
        LogarithmicDetail.ofJson?, LogarithmicDetail.fields]
  | linear d =>
      rcases d with ⟨⟩
      simp [Detail.ofTag?, Detail.tag, Detail.toJson, Detail.fields, Detail.numbers,
        LinearDetail.ofJson?, LinearDetail.fields]
  | _ =>
      simp [Detail.ofTag?, Detail.tag, Detail.toJson, Detail.fields, Detail.numbers,
        FactoringDetail.ofJson?_fields_iff, SquareDetail.ofJson?_fields_iff,
        QuadraticInequalityDetail.ofJson?_fields_iff, ProjectileDetail.ofJson?_fields_iff,
        VertexDetail.ofJson?_fields_iff, LinearInequalityDetail.ofJson?_fields_iff,
        ExponentialInequalityDetail.ofJson?_fields_iff,
        ExponentialQuadraticDetail.ofJson?_fields_iff, GrowthDetail.ofJson?_fields_iff,
        HalfLifeDetail.ofJson?_fields_iff, SystemDetail.ofJson?_fields_iff]

end Reading

section Keys

@[simp]
theorem Point.not_repeatsKey_toJson (p : Point Float) : ¬ p.toJson.RepeatsKey := by
  simp [Point.toJson]

@[simp]
theorem QuadraticDetail.not_repeatsKey_fields (d : QuadraticDetail Float) :
    ¬ (Json.obj d.fields).RepeatsKey := by
  simp [QuadraticDetail.fields]

@[simp]
theorem TestPoint.not_repeatsKey_toJson (t : TestPoint Float) : ¬ t.toJson.RepeatsKey := by
  simp [TestPoint.toJson]

@[simp]
theorem GrowthLaw.not_repeatsKey_toJson (law : GrowthLaw Float) : ¬ law.toJson.RepeatsKey := by
  cases law <;> simp [GrowthLaw.toJson]

theorem Detail.not_repeatsKey_toJson (d : Detail Float) : ¬ d.toJson.RepeatsKey := by
  cases d with
  | quadratic d =>
      simp [Detail.toJson, Detail.fields, QuadraticDetail.fields]
  | _ =>
      simp [Detail.toJson, Detail.fields, FactoringDetail.fields, SquareDetail.fields,
        QuadraticInequalityDetail.fields, ProjectileDetail.fields, VertexDetail.fields,
        LinearInequalityDetail.fields, ExponentialInequalityDetail.fields,
        ExponentialQuadraticDetail.fields, ExponentialDetail.fields, LogarithmicDetail.fields,
        GrowthDetail.fields, HalfLifeDetail.fields, LinearDetail.fields, SystemDetail.fields,
        Json.ofFloats, Json.ofStrings]

end Keys

namespace Solution

/-- A solution is read back from its JSON just if its numbers are finite, and no object of the
JSON has a key twice. -/
theorem readBack_iff_finite (s : Solution Float) :
    (Solution.ofJson? s.toJson = some s ↔ ∀ x ∈ s.numbers, x.isFinite = true) ∧
      ¬ s.toJson.RepeatsKey := by
  rcases s with ⟨category, label, set, fallback, notes, detail⟩
  constructor
  · have hnotes : Json.toList? Json.toString? (Json.ofList .str notes) = some notes :=
      Json.toStrings?_ofStrings notes
    simp only [Solution.numbers, List.forall_mem_append]
    rw [← SolutionSet.ofJson?_toJson_iff, ← Detail.ofJson?_toJson_iff]
    cases notes with
    | nil =>
        simp [Solution.ofJson?, Solution.toJson, Json.listField, Json.field?, Json.string?,
          Option.bind_eq_some_iff]
    | cons note notes =>
        simp [Solution.ofJson?, Solution.toJson, Json.listField, Json.field?, Json.string?,
          Option.bind_eq_some_iff, hnotes]
  · cases notes <;> simp [Solution.toJson, Json.listField, Detail.not_repeatsKey_toJson]

end Solution

end EquationTutor
