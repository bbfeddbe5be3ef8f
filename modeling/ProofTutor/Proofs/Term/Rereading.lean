import ProofTutor.Proofs.Dump.Decoding
import ProofTutor.Proofs.Dump.Reading
import ProofTutor.Proofs.Dump.Writing
import ProofTutor.Proofs.Term.NamedAgain

/-!
Reading again what was written. The written form of a term is read as a term equal to it up to bound
variables, however these are named then. A term that was read is written as a text that is read as the
same term up to types, so it looks like it, as long as no binder hides the type of a local constant.
-/

namespace ProofTutor.Term

/-! ### Any term -/

theorem readWritten {t : Term} (clean : t.Clean) (closed : t.ScopedIn []) (naming : Naming) :
    ∃ t', read naming t.written = .ok t' ∧ t'.alphaEq t = true := by
  have lexical := treeLexical clean false
  have same : alphaEqIn [] (Decoder.build [] (t.tree false) {}).1 t = true :=
    Decoder.termDecoded closed [] [] {} clean (by simp [Decoder.Interns]) (Decoder.noneCovered 0)
      (by simp [Decoder.Paired])
  generalize found : (Decoder.build [] (t.tree false) {}).1 = decoded at same
  refine ⟨naming.nameBound decoded.localNames decoded,?_,?_⟩
  · rw [read, written, String.toList_ofList, Tree.printTrimmed lexical, Tree.readPrinted lexical,
      ← found]
    rfl
  · rw [alphaEq, Naming.nameBound, Naming.alphaEqNamed _ _ _ _ _ _ _ closed.numbered]
    exact same

def shiftedBound : Term :=
  let real : Term := constant "ℝ"
  let less := binary .less (boundVar "x" 3 real) (binary .sum (boundVar "y" 5 real)
    (localConstant "a" "7" real))
  bind .universal (boundVar "x" 3 real) (bind .existential (boundVar "y" 5 real) less)

theorem readWrittenShiftedBound : shiftedBound.Clean ∧ shiftedBound.ScopedIn [] ∧
    ∃ t', read {} shiftedBound.written = .ok t' ∧ t'.alphaEq shiftedBound = true := by
  have real : (constant "ℝ").Clean :=
    .node (by decide) (plainTexts (by decide +kernel) rfl) (by simp) (by simp)
  have x : (boundVar "x" 3 (constant "ℝ")).Clean :=
    .node (by decide) (plainTexts (by decide +kernel) rfl) (by simp) (by simp)
  have y : (boundVar "y" 5 (constant "ℝ")).Clean :=
    .node (by decide) (plainTexts (by decide +kernel) rfl) (by simp) (by simp)
  have a : (localConstant "a" "7" (constant "ℝ")).Clean :=
    .node (by decide) (plainTexts (by decide +kernel) rfl) (by simp) (by simpa using real)
  have operator {kind : Kind} {children : List Term} {type? : Option Term} (code : kind ≠ .rawCode)
      (other : kind ≠ .localConstant) (below : ∀ t ∈ children, t.Clean) :
      Clean ⟨kind,{},children,type?⟩ :=
    .node code (plainTexts rfl rfl) below (fun same => absurd same other)
  have clean : shiftedBound.Clean := by
    apply operator (by decide) (by decide)
    refine List.forall_mem_cons.mpr ⟨real,List.forall_mem_cons.mpr ⟨x,?_⟩⟩
    refine List.forall_mem_singleton.mpr (operator (by decide) (by decide) ?_)
    refine List.forall_mem_cons.mpr ⟨real,List.forall_mem_cons.mpr ⟨y,?_⟩⟩
    refine List.forall_mem_singleton.mpr (operator (by decide) (by decide) ?_)
    refine List.forall_mem_cons.mpr ⟨x,List.forall_mem_singleton.mpr ?_⟩
    exact operator (by decide) (by decide) (by simpa using ⟨y,a⟩)
  have closed : shiftedBound.ScopedIn [] := by
    have typed (bound : List Nat) : (constant "ℝ").ScopedIn bound :=
      .compound (by decide) (by decide) rfl (by simp)
    have free (identifier : String) (same : some "7" = some identifier) :
        ¬ boundStart.toList <+: identifier.toList := by
      cases same
      decide +kernel
    refine .binder rfl rfl rfl (by simp) (typed _) (.binder rfl rfl rfl (by simp) (typed _) ?_)
    refine .compound (by decide) (by decide) rfl (List.forall_mem_cons.mpr ⟨?_,?_⟩)
    · exact .occurrence rfl rfl (by simp)
    · refine List.forall_mem_singleton.mpr (.compound (by decide) (by decide) rfl ?_)
      exact List.forall_mem_cons.mpr ⟨.occurrence rfl rfl (by simp),
        List.forall_mem_singleton.mpr (.constant free)⟩
  exact ⟨clean,closed,readWritten clean closed {}⟩

/-! ### A term that was read -/

def OrdinaryText (text : String) : Prop :=
  ∀ parts ∈ Tree.read? (Text.strip text.toList), parts.1.Ordinary

instance (text : String) : Decidable (OrdinaryText text) :=
  inferInstanceAs (Decidable (∀ parts ∈ Tree.read? (Text.strip text.toList), parts.1.Ordinary))

def Rereads (naming : Naming) (t : Term) : Prop :=
  ∃ t', read naming t.written = .ok t' ∧ t'.alphaEq t = true ∧
    ∀ format, t'.render format none = t.render format none

theorem ordinaryFormed {tree : Tree} (ordinary : tree.Ordinary) :
    Formed False (fun _ => True) [] (Decoder.build [] tree {}).1 := by
  have legible : Decoder.Legible False (fun _ => True) tree :=
    ⟨fun node mem => (ordinary node mem).1,fun _ _ _ => trivial⟩
  have settled : ∀ info info' : Info, True → True → info'.identifier = info.identifier → True :=
    fun _ _ _ _ _ => trivial
  exact Decoder.buildFormed settled tree [] [] {} legible ⟨by simp,by simp⟩ (by simp [Decoder.Interns])
    (by simp [Decoder.InternsAll]) (fun _ _ => trivial)

theorem decodedAgain {naming : Naming} {tree : Tree} {raw t : Term} (lexical : tree.Lexical)
    (ordinary : tree.Ordinary) (built : (Decoder.build [] tree {}).1 = raw)
    (named : naming.nameBound raw.localNames raw = t) (whole : t.isWhole = true) :
    (t.tree false).Lexical ∧ (Decoder.build [] (t.tree false) {}).1.bare = t.bare := by
  obtain ⟨writable, _⟩ := Decoder.buildWritable tree lexical ordinary [] {}
    (by simp [Decoder.InternsWritable])
  have dresses : Dresses (Decoder.build [] tree {}).1 t := by
    rw [built, ← named]
    exact Naming.dressesNamed naming raw.localNames raw [] []
  have rebuilt := Decoder.rebuilt tree ordinary [] [] {} {} t (by simp [Decoder.Interns])
    ⟨by simp,by simp⟩ ⟨rfl,fun _ => rfl⟩ dresses whole
  rw [built] at writable
  refine ⟨treeWritable ?_ false,rebuilt.term⟩
  rw [← named]
  exact Naming.nameBoundWritable naming raw.localNames writable

theorem rereads {naming : Naming} {text : String} {t : Term} (found : read naming text = .ok t)
    (ordinary : OrdinaryText text) (whole : t.isWhole = true) : Rereads naming t := by
  rw [read] at found
  split at found
  · cases found
  · rename_i tree rest parts
    split at found
    · have own : tree.Ordinary := ordinary (tree,rest) parts
      have formed := ordinaryFormed own
      generalize built : (Decoder.build [] tree {}).1 = raw at found formed
      have named : naming.nameBound raw.localNames raw = t := Except.ok.inj found
      obtain ⟨lexical, again⟩ := decodedAgain (Tree.readLexical parts) own built named whole
      have numbered : t.Numbered := by
        rw [← named]
        exact (numberedAnonymous (Naming.anonymousNamed naming _ raw [] [])).mpr formed.numbered
      -- both are named clear of the same local constants
      have locals : t.localNames = raw.localNames := by
        rw [← named]
        exact Naming.nameInLocalNames naming _ raw [] []
      generalize decoded : (Decoder.build [] (t.tree false) {}).1 = raw' at again
      have numbered' : raw'.Numbered := by
        rw [← numberedReduced bareRenames, ← bare, again, bare, numberedReduced bareRenames]
        exact numbered
      have locals' : raw'.localNames = raw.localNames := by
        rw [← localNamesReduced bareRenames, ← bare, again, bare, localNamesReduced bareRenames, locals]
      have same : (naming.nameBound raw'.localNames raw').bare = t.bare := by
        rw [Naming.nameBoundBare naming _ numbered', again, ← Naming.nameBoundBare naming _ numbered,
          locals', ← named, Naming.nameBoundAgain naming _ formed.declared]
      refine ⟨naming.nameBound raw'.localNames raw',?_,?_,fun format => ?_⟩
      · rw [read, written, String.toList_ofList, Tree.printTrimmed lexical, Tree.readPrinted lexical,
          ← decoded]
        rfl
      · refine bareAlphaEq same ?_ numbered
        exact (numberedAnonymous (Naming.anonymousNamed naming _ raw' [] [])).mpr numbered'
      · rw [← (renderBare format (naming.nameBound raw'.localNames raw')).1, same,
          (renderBare format t).1]
    · cases found

-- For texts written in three pieces: the kernel is slow at decoding a long literal.
theorem joinedCharacters {a b c : List Char} :
    (String.ofList a ++ String.ofList b ++ String.ofList c).toList = a ++ b ++ c := by
  simp only [String.toList_append, String.toList_ofList]

def unknownOver : String :=
  "QUANT_∀¿(TYPE¿, LOCAL_CONSTANT¿[identifier:0¿]¿, OTHER¿(" ++
    "LOCAL_CONSTANT¿[name:x/identifier:0¿]¿, LOCAL_CONSTANT¿[name:a/identifier:1¿]¿(TYPE¿)¿, " ++
    "LOCAL_CONSTANT¿[name:b/identifier:1¿]¿)¿)"

theorem rereadsUnknownOver : ∃ t, read {} unknownOver = .ok t ∧ OrdinaryText unknownOver ∧
    t.isWhole = true ∧ Rereads {} t := by
  have spelled : unknownOver.toList = _ := joinedCharacters
  have ordinary : OrdinaryText unknownOver := by
    rw [OrdinaryText, spelled]
    decide +kernel
  have whole : (match read {} unknownOver with
      | .ok t => t.isWhole
      | .error _ => false) = true := by
    rw [read, spelled]
    decide +kernel
  split at whole
  · rename_i t found
    exact ⟨t,found,ordinary,whole,rereads found ordinary whole⟩
  · cases whole

def hiddenBinder : String :=
  "QUANT_∀¿(QUANT_∀¿(TYPE¿, LOCAL_CONSTANT¿[name:a/identifier:a¿]¿(QUANT_∀¿(TYPE¿, " ++
    "LOCAL_CONSTANT¿[name:z¿]¿, PROP_TRUE¿)¿)¿)¿, LOCAL_CONSTANT¿[name:x/identifier:x¿]¿, " ++
    "QUANT_∀¿(LOCAL_CONSTANT¿[name:x/identifier:x¿]¿, CONSTANT¿[name:k/bound_var_number:1¿]¿)¿)"

/-- The type is not written, so the number of its variable goes to another one. -/
theorem hiddenTypesMissed : ¬ ∀ naming text t, read naming text = .ok t → OrdinaryText text →
    Rereads naming t := by
  intro every
  have spelled : hiddenBinder.toList = _ := joinedCharacters
  have ordinary : OrdinaryText hiddenBinder := by
    rw [OrdinaryText, spelled]
    decide +kernel
  have differ : (match read {} hiddenBinder with
      | .ok t =>
        (match read {} t.written with
          | .ok t' => !t'.alphaEq t
          | .error _ => true)
      | .error _ => false) = true := by
    rw [read, spelled]
    simp only [read, written, String.toList_ofList]
    decide +kernel
  split at differ
  · rename_i t found
    obtain ⟨t', again, same, _⟩ := every {} hiddenBinder t found ordinary
    rw [again] at differ
    simp only [same] at differ
    cases differ
  · cases differ

end ProofTutor.Term
