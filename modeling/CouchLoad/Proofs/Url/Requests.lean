import CouchLoad.Proofs.Outcome
import CouchLoad.Proofs.Url.Percent
import CouchLoad.Url.Basic

/-!
# URLs tell requests apart

The URL of a request says what the query of the request is. It says what the path is, too, as long
as no segment of the path gets lost: segments of one or two dots do, and so do tabs, line feeds and
carriage returns, and an empty segment right behind the root.
-/

namespace CouchLoad.Url

open Text

/-! ### What is read back -/

/-- The segments of the path of a server that stand in front of those of its requests. -/
def front (server : Url) : List (List Char) :=
  let path := withoutFinalSlash server.path
  if path = [[]] then [] else path

/-- The bytes of the segments of a URL, as they are read from its text. -/
def readSegments (u : Url) : List (List UInt8) :=
  (splitAtEach '/' u.pathText).tail.map percentDecode

/-- A segment that does not get lost, as a whole or in part. -/
def IsPlain (segment : List Char) : Prop :=
  segment ≠ ['.'] ∧ segment ≠ ['.', '.'] ∧ segment.any isDropped = false
  deriving Decidable

/-- A path whose segments a server gets as they are. -/
def Keeps (server : Url) (path : List String) : Prop :=
  (∀ segment ∈ path, IsPlain segment.toList) ∧
    (server.front = [] → path.head? = some "" → path.length = 1)
  deriving Decidable

/-! ### Segments -/

/-- The written form of a segment that does not get lost. -/
def IsWritten (segment : List Char) : Prop :=
  ∃ plain, IsPlain plain ∧ segment = percentEncode inSegment plain

lemma isPlain_nil : IsPlain [] := by simp [IsPlain]

lemma isWritten_nil : IsWritten [] := ⟨[], isPlain_nil, rfl⟩

lemma push_plain {segment : List Char} (h : IsPlain segment) (path : List (List Char)) :
    push path segment =
      (if path = [[]] then [] else path) ++ [percentEncode inSegment segment] := by
  obtain ⟨hone, htwo, hkept⟩ := h
  have hfilter : (segment.filter fun c => !isDropped c) = segment :=
    List.filter_eq_self.2 fun c hc => by simpa using List.any_eq_false.1 hkept c hc
  unfold push
  rw [if_neg (by simp [hone, htwo])]
  simp only [hfilter, hone, htwo, if_false]

/-- A segment takes some segments away from the end, or none, and puts one at most behind the
others. -/
lemma push_eq (path : List (List Char)) (segment : List Char) :
    ∃ k pushed, push path segment = path.take k ++ pushed ∧ pushed.length ≤ 1 ∧
      ∀ p ∈ pushed, IsWritten p := by
  have habove : ∀ reached : List (List Char), ∃ k, above reached = reached.take k := by
    intro reached
    unfold above
    split
    · exact ⟨reached.length, (List.take_length).symm⟩
    · exact ⟨reached.length - 1, List.dropLast_eq_take⟩
  have hreached : ∃ k, (if path = [[]] then [] else path) = path.take k := by
    split
    · exact ⟨0, rfl⟩
    · exact ⟨path.length, (List.take_length).symm⟩
  have hempty : ∀ p ∈ ([[]] : List (List Char)), IsWritten p := by simp [isWritten_nil]
  obtain ⟨k, hk⟩ := hreached
  unfold push
  split
  · exact ⟨path.length, [], by simp, Nat.zero_le 1, by simp⟩
  · simp only [hk]
    split
    · obtain ⟨m, hm⟩ := habove (path.take k)
      exact ⟨min m k, [[]], by rw [hm, List.take_take], Nat.le_refl 1, hempty⟩
    · split
      · exact ⟨k, [[]], rfl, Nat.le_refl 1, hempty⟩
      · rename_i htwo hone
        refine ⟨k, [_], rfl, Nat.le_refl 1, fun p hp => ?_⟩
        refine ⟨_, ⟨hone, htwo, List.any_eq_false.2 fun c hc => ?_⟩, List.mem_singleton.1 hp⟩
        simpa using (List.mem_filter.1 hc).2

lemma foldl_push_eq (segments path : List (List Char)) :
    ∃ k pushed, segments.foldl push path = path.take k ++ pushed ∧
      pushed.length ≤ segments.length ∧ ∀ p ∈ pushed, IsWritten p := by
  induction segments generalizing path with
  | nil => exact ⟨path.length, [], by simp, Nat.le_refl 0, by simp⟩
  | cons segment segments ih =>
    obtain ⟨k, pushed, hpush, hlength, hpushed⟩ := push_eq path segment
    obtain ⟨m, more, hfold, hlength', hmore⟩ := ih (path.take k ++ pushed)
    refine ⟨min m k, pushed.take (m - (path.take k).length) ++ more, ?_, ?_, ?_⟩
    · rw [List.foldl_cons, hpush, hfold, List.take_append, List.take_take, List.append_assoc]
    · rw [List.length_append, List.length_cons, List.length_take]
      omega
    · intro p hp
      rcases List.mem_append.1 hp with hp | hp
      · exact hpushed p (List.mem_of_mem_take hp)
      · exact hmore p hp

/-- Behind a path that is more than the root, plain segments are written one by one. -/
lemma foldl_push_plain {segments path : List (List Char)} (h : ∀ s ∈ segments, IsPlain s)
    (hpath : path ≠ []) (hroot : path ≠ [[]]) :
    segments.foldl push path = path ++ segments.map (percentEncode inSegment) := by
  induction segments generalizing path with
  | nil => simp
  | cons segment segments ih =>
    have hnext : push path segment = path ++ [percentEncode inSegment segment] := by
      rw [push_plain (h segment List.mem_cons_self), if_neg hroot]
    have hlong : path ++ [percentEncode inSegment segment] ≠ [[]] := by
      intro heq
      have hlength := congrArg List.length heq
      rw [List.length_append, List.length_singleton, List.length_singleton] at hlength
      exact hpath (List.eq_nil_of_length_eq_zero (by omega))
    rw [List.foldl_cons, hnext, ih (fun s hs => h s (List.mem_cons_of_mem _ hs)) (by simp) hlong]
    simp

lemma percentEncode_eq_nil {keep : Char → Bool} {s : List Char} (hkeep : keep '%' = false)
    (h : percentEncode keep s = []) : s = [] := by
  apply utf8Encode_injective
  rw [← percentDecode_percentEncode' hkeep s, h]
  rfl

/-! ### Paths -/

lemma front_eq (server : Url) :
    withoutFinalSlash server.path = server.front ∧ server.front ≠ [[]] ∨
      withoutFinalSlash server.path = [[]] ∧ server.front = [] := by
  unfold front
  dsimp only
  split
  · rename_i hroot
    exact Or.inr ⟨hroot, rfl⟩
  · rename_i hroot
    exact Or.inl ⟨rfl, hroot⟩

/-- The path of a request that nothing is lost of. -/
lemma path_of_keeps {server : Url} {r : Request} (hpath : r.path ≠ []) (h : server.Keeps r.path) :
    (server.forRequest r).path =
      server.front ++ r.path.map fun s => percentEncode inSegment s.toList := by
  obtain ⟨hplain, hfirst⟩ := h
  have hsegments : ∀ s ∈ r.path.map String.toList, IsPlain s := by simpa using hplain
  have hmap : (r.path.map fun s => percentEncode inSegment s.toList) =
      (r.path.map String.toList).map (percentEncode inSegment) := by
    rw [List.map_map]
    rfl
  show (r.path.map String.toList).foldl push (withoutFinalSlash server.path) = _
  rw [hmap]
  by_cases hnone : server.front = []
  · -- the first segment takes the place of the root
    rw [hnone] at hfirst ⊢
    obtain ⟨first, rest, hsplit⟩ := List.exists_cons_of_ne_nil hpath
    rw [hsplit] at hsegments hfirst ⊢
    have hbase : (if withoutFinalSlash server.path = [[]] then []
        else withoutFinalSlash server.path) = [] := hnone
    rw [List.map_cons, List.foldl_cons, push_plain (hsegments _ List.mem_cons_self), hbase,
      List.nil_append, List.nil_append, List.map_cons]
    cases rest with
    | nil => rfl
    | cons second rest =>
      have hne : [percentEncode inSegment first.toList] ≠ [[]] := by
        intro heq
        have hempty := percentEncode_eq_nil (by decide) (List.singleton_inj.1 heq)
        have hlength := hfirst rfl (congrArg some (String.toList_eq_nil_iff.1 hempty))
        simp at hlength
      rw [foldl_push_plain (fun s hs => hsegments s (List.mem_cons_of_mem _ hs)) (by simp) hne]
      rfl
  · rcases front_eq server with ⟨hbase, hroot⟩ | ⟨-, hempty⟩
    · rw [hbase, foldl_push_plain hsegments hnone hroot]
    · exact absurd hempty hnone

/-- Only segments that do not get lost are found behind the path of the server. -/
lemma isWritten_of_mem {server : Url} {r : Request} {segment : List Char}
    (h : segment ∈ (server.forRequest r).path.drop server.front.length) : IsWritten segment := by
  obtain ⟨k, pushed, hpath, -, hpushed⟩ :=
    foldl_push_eq (r.path.map String.toList) (withoutFinalSlash server.path)
  have hsplit : (server.forRequest r).path =
      (withoutFinalSlash server.path).take k ++ pushed := hpath
  rw [hsplit, List.drop_append] at h
  rcases List.mem_append.1 h with h | h
  · rcases front_eq server with ⟨hbase, -⟩ | ⟨hbase, -⟩
    · have hnone : ((server.front).take k).drop server.front.length = [] :=
        List.drop_eq_nil_of_le (List.length_take_le' _ _)
      rw [hbase, hnone] at h
      cases h
    · rw [hbase] at h
      have hmem := List.mem_of_mem_take (List.mem_of_mem_drop h)
      rw [List.mem_singleton.1 hmem]
      exact isWritten_nil
  · exact hpushed _ (List.mem_of_mem_drop h)

/-- An empty segment behind the root is lost if others follow. -/
lemma length_of_lost {server : Url} {r : Request} (hplain : ∀ s ∈ r.path, IsPlain s.toList)
    (hroot : server.front = []) (hfirst : r.path.head? = some "") (hlength : r.path.length ≠ 1) :
    (server.forRequest r).path.length < r.path.length := by
  match hpath : r.path, hfirst with
  | [first], _ => simp [hpath] at hlength
  | first :: second :: rest, hfirst =>
    rw [hpath] at hplain
    have hempty : first = "" := by simpa using hfirst
    subst hempty
    have hbase : (if withoutFinalSlash server.path = [[]] then []
        else withoutFinalSlash server.path) = [] := hroot
    have hstart : push (withoutFinalSlash server.path) [] = [[]] := by
      rw [push_plain isPlain_nil, hbase]
      rfl
    have hnext : push [[]] second.toList = [percentEncode inSegment second.toList] := by
      rw [push_plain (hplain second (by simp)), if_pos rfl]
      rfl
    obtain ⟨k, pushed, hfold, hpushed, -⟩ := foldl_push_eq (rest.map String.toList)
      [percentEncode inSegment second.toList]
    have hrun : (server.forRequest r).path =
        (rest.map String.toList).foldl push [percentEncode inSegment second.toList] := by
      show (r.path.map String.toList).foldl push (withoutFinalSlash server.path) = _
      rw [hpath, List.map_cons, List.map_cons, List.foldl_cons, List.foldl_cons,
        show ("" : String).toList = [] from rfl, hstart, hnext]
    rw [List.length_map] at hpushed
    rw [hrun, hfold, List.length_append, List.length_cons, List.length_cons]
    have := List.length_take_le' k [percentEncode inSegment second.toList]
    rw [List.length_singleton] at this
    omega

/-! ### Texts -/

/-- Neither slashes nor question marks stand in a segment. -/
def IsClean (segment : List Char) : Prop :=
  '/' ∉ segment ∧ '?' ∉ segment

lemma isClean_nil : IsClean [] := by simp [IsClean]

lemma IsWritten.isClean {segment : List Char} (h : IsWritten segment) : IsClean segment := by
  obtain ⟨plain, -, rfl⟩ := h
  exact ⟨notMem_percentEncode (by decide) (by decide) _,
    notMem_percentEncode (by decide) (by decide) _⟩

lemma mem_of_mem_above {reached : List (List Char)} {segment : List Char}
    (h : segment ∈ above reached) : segment ∈ reached := by
  unfold above at h
  split at h
  · exact h
  · exact (List.dropLast_sublist reached).subset h

lemma isClean_of_mem_walk {reached segments : List (List Char)} {segment : List Char}
    (hreached : ∀ s ∈ reached, IsClean s) (hsegments : ∀ s ∈ segments, '/' ∉ s)
    (h : segment ∈ walk reached segments) : IsClean segment := by
  induction segments generalizing reached with
  | nil => exact hreached segment h
  | cons s rest ih =>
    have hend : ∀ p ∈ (if rest.isEmpty then [[]] else [] : List (List Char)), IsClean p := by
      intro p hp
      split at hp
      · rw [List.mem_singleton.1 hp]
        exact isClean_nil
      · cases hp
    have hrest : ∀ s ∈ rest, '/' ∉ s := fun s hs => hsegments s (List.mem_cons_of_mem _ hs)
    unfold walk at h
    dsimp only at h
    split at h
    · refine ih (fun p hp => ?_) hrest h
      rcases List.mem_append.1 hp with hp | hp
      · exact hreached p (mem_of_mem_above hp)
      · exact hend p hp
    · split at h
      · refine ih (fun p hp => ?_) hrest h
        rcases List.mem_append.1 hp with hp | hp
        · exact hreached p hp
        · exact hend p hp
      · refine ih (fun p hp => ?_) hrest h
        rcases List.mem_append.1 hp with hp | hp
        · exact hreached p hp
        · rw [List.mem_singleton.1 hp]
          refine ⟨fun hslash => ?_, notMem_percentEncode (by decide) (by decide) s⟩
          rcases mem_of_mem_percentEncode hslash with ⟨hslash, -⟩ | hslash
          · exact hsegments s List.mem_cons_self hslash
          · exact absurd hslash (by decide)

lemma isClean_of_mem_segmentsOf {s segment : List Char} (h : segment ∈ segmentsOf s) :
    IsClean segment := by
  unfold segmentsOf at h
  dsimp only at h
  split at h
  · exact isClean_of_mem_walk (by simp) (fun p hp => notMem_of_mem_splitAtEach hp) h
  · rw [List.mem_singleton.1 h]
    exact isClean_nil

/-- The path of a server is read from the text of its address. -/
lemma isClean_of_mem_server {host : String} {port : Nat} {server : Url}
    (h : ofServer host port = .ok server) : ∀ s ∈ server.path, IsClean s := by
  unfold ofServer ofAuthority at h
  obtain ⟨_, -, h⟩ := bind_eq_ok_iff.1 h
  obtain ⟨_, -, h⟩ := bind_eq_ok_iff.1 h
  cases h
  exact fun s hs => isClean_of_mem_segmentsOf hs

section Faithful

variable {server : Url} (hclean : ∀ s ∈ server.path, IsClean s) {r r' : Request}

include hclean

lemma isClean_of_mem_path : ∀ s ∈ (server.forRequest r).path, IsClean s := by
  intro s hs
  obtain ⟨k, pushed, hpath, -, hpushed⟩ :=
    foldl_push_eq (r.path.map String.toList) (withoutFinalSlash server.path)
  have hsplit : (server.forRequest r).path =
      (withoutFinalSlash server.path).take k ++ pushed := hpath
  rw [hsplit] at hs
  rcases List.mem_append.1 hs with hs | hs
  · have hbase : s ∈ withoutFinalSlash server.path := List.mem_of_mem_take hs
    unfold withoutFinalSlash at hbase
    split at hbase
    · exact hclean s ((List.dropLast_sublist _).subset hbase)
    · exact hclean s hbase
  · exact (hpushed s hs).isClean

/-- The segments of a URL are read from its text one by one. -/
lemma readSegments_forRequest :
    (server.forRequest r).readSegments = (server.forRequest r).path.map percentDecode := by
  have hslash : ∀ s ∈ (server.forRequest r).path, '/' ∉ s := fun s hs =>
    (isClean_of_mem_path hclean s hs).1
  have hcut := splitAtEach_flatMap List.not_mem_nil hslash
  unfold readSegments pathText
  rw [List.nil_append] at hcut
  rw [hcut]
  rfl

/-- The path is read back from the URL just if no segment gets lost. -/
lemma readSegments_eq_iff (hpath : r.path ≠ []) :
    (server.forRequest r).readSegments.drop server.front.length =
      r.path.map (fun s => utf8Encode s.toList) ↔ server.Keeps r.path := by
  rw [readSegments_forRequest hclean]
  constructor
  · intro h
    have hplain : ∀ s ∈ r.path, IsPlain s.toList := by
      intro s hs
      have hmem : utf8Encode s.toList ∈
          ((server.forRequest r).path.map percentDecode).drop server.front.length := by
        rw [h]
        exact List.mem_map_of_mem hs
      rw [← List.map_drop] at hmem
      obtain ⟨segment, hsegment, hread⟩ := List.mem_map.1 hmem
      obtain ⟨plain, hplain, rfl⟩ := isWritten_of_mem hsegment
      rw [percentDecode_percentEncode' (by decide)] at hread
      rwa [← utf8Encode_injective hread]
    refine ⟨hplain, fun hroot hfirst => ?_⟩
    by_contra hlength
    have hlost := length_of_lost hplain hroot hfirst hlength
    have hlengths := congrArg List.length h
    rw [hroot] at hlengths
    simp only [List.length_nil, List.drop_zero, List.length_map] at hlengths
    omega
  · intro h
    rw [path_of_keeps hpath h, List.map_append, ← List.length_map percentDecode,
      List.drop_left, List.map_map]
    exact List.map_congr_left fun s _ => percentDecode_percentEncode' (by decide) s.toList

/-- The text of a URL tells its path and its query. -/
lemma path_and_query_of_render
    (h : (server.forRequest r).render = (server.forRequest r').render) :
    (server.forRequest r).pathText = (server.forRequest r').pathText ∧
      (server.forRequest r).query = (server.forRequest r').query := by
  have htarget : (server.forRequest r).target = (server.forRequest r').target := by
    -- the parts around the target are those of the server
    unfold render at h
    exact List.append_cancel_left (List.append_cancel_right h)
  have hpath : ∀ r : Request, '?' ∉ (server.forRequest r).pathText := by
    intro r hmem
    obtain ⟨s, hs, hmem⟩ := List.mem_flatMap.1 hmem
    rcases List.mem_cons.1 hmem with hmark | hmem
    · exact absurd hmark (by decide)
    · exact (isClean_of_mem_path hclean s hs).2 hmem
  unfold target at htarget
  cases hquery : (server.forRequest r).query with
  | none =>
    cases hquery' : (server.forRequest r').query with
    | none =>
      rw [hquery, hquery', List.append_nil, List.append_nil] at htarget
      exact ⟨htarget, rfl⟩
    | some query' =>
      rw [hquery, hquery', List.append_nil] at htarget
      exact absurd (htarget ▸ List.mem_append_right _ List.mem_cons_self) (hpath r)
  | some query =>
    cases hquery' : (server.forRequest r').query with
    | none =>
      rw [hquery, hquery', List.append_nil] at htarget
      exact absurd (htarget ▸ List.mem_append_right _ List.mem_cons_self) (hpath r')
    | some query' =>
      rw [hquery, hquery'] at htarget
      have hcut := congrArg (splitAtFirst? '?') htarget
      rw [splitAtFirst?_append (hpath r), splitAtFirst?_append (hpath r')] at hcut
      simp only [Option.some.injEq, Prod.mk.injEq] at hcut
      exact ⟨hcut.1, congrArg some hcut.2⟩

end Faithful

/-! ### Queries -/

/-- What stands in front of the pairs of a request in a query. -/
def queryFront : Option (List Char) → List Char
  | none | some [] => []
  | some query => query ++ ['&']

lemma query_forRequest (server : Url) (r : Request) :
    (server.forRequest r).query =
      if r.query = [] then server.query
      else some (queryFront server.query ++ formPairs r.query) := by
  unfold forRequest
  cases hpairs : r.query with
  | nil => rfl
  | cons pair pairs =>
    rcases server.query with _ | _ | ⟨c, query⟩
    · rfl
    · rfl
    · simp [queryFront]

/-- A request with a query does not leave the query of its server as it is. -/
lemma query_ne {query : Option (List Char)} {pairs : List (String × String)} (h : pairs ≠ []) :
    query ≠ some (queryFront query ++ formPairs pairs) := by
  rcases query with _ | _ | ⟨c, query⟩
  · simp
  · simpa [queryFront] using formPairs_ne_nil h
  · simp [queryFront]

/-- The query of a URL tells the query of its request. -/
lemma query_injective {server : Url} {r r' : Request}
    (h : (server.forRequest r).query = (server.forRequest r').query) : r.query = r'.query := by
  rw [query_forRequest, query_forRequest] at h
  by_cases hnone : r.query = []
  · by_cases hnone' : r'.query = []
    · rw [hnone, hnone']
    · rw [if_pos hnone, if_neg hnone'] at h
      exact absurd h (query_ne hnone')
  · by_cases hnone' : r'.query = []
    · rw [if_neg hnone, if_pos hnone'] at h
      exact absurd h.symm (query_ne hnone)
    · rw [if_neg hnone, if_neg hnone'] at h
      exact formPairs_injective (List.append_cancel_left (Option.some.inj h))

/-- A server tells requests apart by their URLs. The path of a request is read back from its URL
just if no segment of it gets lost; two requests of one URL have one query, and one path too if no
segment of either gets lost. -/
theorem forRequest_faithful {host : String} {port : Nat} {server : Url}
    (hserver : ofServer host port = .ok server) :
    (∀ r : Request, r.path ≠ [] →
      ((server.forRequest r).readSegments.drop server.front.length =
        r.path.map (fun s => utf8Encode s.toList) ↔ server.Keeps r.path)) ∧
      ∀ r r' : Request, r.path ≠ [] → r'.path ≠ [] →
        (server.forRequest r).render = (server.forRequest r').render →
        r.query = r'.query ∧ (server.Keeps r.path → server.Keeps r'.path → r.path = r'.path) := by
  have hclean := isClean_of_mem_server hserver
  refine ⟨fun r hpath => readSegments_eq_iff hclean hpath, fun r r' hpath hpath' h => ?_⟩
  obtain ⟨htext, hquery⟩ := path_and_query_of_render hclean h
  refine ⟨query_injective hquery, fun hkeeps hkeeps' => ?_⟩
  have hread := (readSegments_eq_iff hclean hpath).2 hkeeps
  have hread' := (readSegments_eq_iff hclean hpath').2 hkeeps'
  have hsame : (server.forRequest r).readSegments = (server.forRequest r').readSegments := by
    unfold readSegments
    rw [htext]
  rw [hsame, hread'] at hread
  exact List.map_injective_iff.2
    (utf8Encode_injective.comp fun _ _ => String.toList_inj.1) hread.symm

/-- A document whose id has to be encoded, and an attachment of another one. -/
theorem forRequest_faithful_encoded :
    let server : Url := ⟨[], "localhost".toList, some 5984, [[]], none, none⟩
    let r := (Request.plain .put ["db", "50% of a/b"]).withQuery "rev" "1-a"
    let r' := (Request.plain .put ["db", "50% of a", "b"]).withQuery "rev" "1-a"
    ofServer "localhost" 5984 = .ok server ∧ server.Keeps r.path ∧ server.Keeps r'.path ∧
      (server.forRequest r).render =
        "http://localhost:5984/db/50%25%20of%20a%2Fb?rev=1-a".toList ∧
      (server.forRequest r).readSegments = r.path.map (fun s => utf8Encode s.toList) ∧
      (server.forRequest r).render ≠ (server.forRequest r').render := by
  intro server r r'
  have hserver : ofServer "localhost" 5984 = .ok server := rfl
  have hkeeps : server.Keeps r.path ∧ server.Keeps r'.path := by decide
  obtain ⟨hread, htell⟩ := forRequest_faithful hserver
  refine ⟨hserver, hkeeps.1, hkeeps.2, by decide +kernel, (hread r (by decide)).2 hkeeps.1, ?_⟩
  intro heq
  exact absurd ((htell r r' (by decide) (by decide) heq).2 hkeeps.1 hkeeps.2) (by decide)

/-- Requests for different documents, or for a document and its database, may have one URL. -/
theorem forRequest_collides :
    let server : Url := ⟨[], "localhost".toList, some 5984, [[]], none, none⟩
    ofServer "localhost" 5984 = .ok server ∧
      server.forRequest (.plain .put ["db", "a\tb"]) =
        server.forRequest (.plain .put ["db", "ab"]) ∧
      server.forRequest (.plain .put ["db", "."]) = server.forRequest (.plain .put ["db"]) := by
  exact ⟨rfl, by decide +kernel, by decide +kernel⟩

end CouchLoad.Url
