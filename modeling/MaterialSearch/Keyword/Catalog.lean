/-
  MaterialSearch.Keyword.Catalog
  ────────────────────────────────
  **THE KEYWORDS OF THE DATABASE.**

  Every keyword that a search may name, with the form of its values.  The
  list is in the order of the database's own schema.

  Main definitions:
    * `catalog` — all keywords
    * `find?`   — a keyword by its exact name
    * `Field.auid`, `Field.aurl`, `Field.files` — the keywords that entries
      themselves depend on
-/
import MaterialSearch.Keyword.Field

namespace MaterialSearch.Keyword

/-! ## §1. The list. -/

/-- All keywords, in schema order. -/
def catalog : List Field :=
  [⟨"Bravais_lattice_orig", .string, .optional, "", "original bravais lattice"⟩,
   ⟨"Bravais_lattice_relax", .string, .optional, "", "relaxed bravais lattice"⟩,
   ⟨"Egap", .number, .mandatory, "eV", "electronic energy band gap"⟩,
   ⟨"Egap_fit", .number, .mandatory, "eV", "fitted band gap"⟩,
   ⟨"Egap_type", .string, .mandatory, "", "band gap type"⟩,
   ⟨"PV_atom", .number, .mandatory, "eV/atom", "atomic pressure*volume"⟩,
   ⟨"PV_cell", .number, .mandatory, "eV", "unit cell pressure*volume"⟩,
   ⟨"Pearson_symbol_orig", .string, .mandatory, "", "original Pearson symbol"⟩,
   ⟨"Pearson_symbol_relax", .string, .mandatory, "", "relaxed Pearson symbol"⟩,
   ⟨"Pulay_stress", .number, .mandatory, "kbar", "Pulay Stress"⟩,
   ⟨"Pullay_stress", .number, .mandatory, "kbar", "Pulay Stress"⟩,
   ⟨"ael_bulk_modulus_reuss", .number, .optional, "GPa", "AEL Reuss bulk modulus"⟩,
   ⟨"ael_bulk_modulus_voigt", .number, .optional, "GPa", "AEL Voigt bulk modulus"⟩,
   ⟨"ael_bulk_modulus_vrh", .number, .optional, "GPa", "AEL VRH bulk modulus"⟩,
   ⟨"ael_elastic_anistropy", .number, .optional, "", "AEL elastic anistropy"⟩,
   ⟨"ael_poisson_ratio", .number, .optional, "", "AEL Poisson ratio"⟩,
   ⟨"ael_shear_modulus_reuss", .number, .optional, "GPa", "AEL Reuss shear modulus"⟩,
   ⟨"ael_shear_modulus_voigt", .number, .optional, "GPa", "AEL Voigt shear modulus"⟩,
   ⟨"ael_shear_modulus_vrh", .number, .optional, "GPa", "AEL VRH shear modulus"⟩,
   ⟨"aflow_version", .string, .optional, "", "aflow version"⟩,
   ⟨"aflowlib_date", .string, .optional, "", "material generation date"⟩,
   ⟨"aflowlib_entries", .strings, .conditional, "", "aflowlib entries"⟩,
   ⟨"aflowlib_entries_number", .number, .conditional, "", "aflowlib entry count"⟩,
   ⟨"aflowlib_version", .string, .optional, "", "aflowlib version"⟩,
   ⟨"agl_acoustic_debye", .number, .optional, "K", "AGL acoustic Debye temperature"⟩,
   ⟨"agl_bulk_modulus_isothermal_300K", .number, .optional,
     "GPa", "AGL isothermal bulk modulus 300K"⟩,
   ⟨"agl_bulk_modulus_static_300K", .number, .optional, "GPa", "AGL static bulk modulus 300K"⟩,
   ⟨"agl_debye", .number, .optional, "K", "AGL Debye temperature"⟩,
   ⟨"agl_gruneisen", .number, .optional, "", "AGL Gruneisen parameter"⟩,
   ⟨"agl_heat_capacity_Cp_300K", .number, .optional, "kB/cell", "AGL heat capacity Cp"⟩,
   ⟨"agl_heat_capacity_Cv_300K", .number, .optional, "kB/cell", "AGL heat capacity Cv"⟩,
   ⟨"agl_thermal_conductivity_300K", .number, .optional, "W/m*K", "AGL thermal conductivity"⟩,
   ⟨"agl_thermal_expansion_300K", .number, .optional, "1/K", "AGL thermal expansion"⟩,
   ⟨"auid", .string, .mandatory, "", "AFLOWLIB Unique Identifier"⟩,
   ⟨"aurl", .string, .mandatory, "", "AFLOWLIB Uniform Resource Locator"⟩,
   ⟨"author", .strings, .optional, "", "author"⟩,
   ⟨"bader_atomic_volumes", .numbers, .optional, "Å³", "atomic volume per atom"⟩,
   ⟨"bader_net_charges", .numbers, .optional, "electrons", "partial charge per atom"⟩,
   ⟨"calculation_cores", .number, .optional, "", "used CPU cores"⟩,
   ⟨"calculation_memory", .number, .optional, "Megabytes", "used RAM"⟩,
   ⟨"calculation_time", .number, .optional, "seconds", "used time"⟩,
   ⟨"catalog", .string, .optional, "", "catalog"⟩,
   ⟨"code", .string, .optional, "", "ab initio code"⟩,
   ⟨"composition", .numbers, .optional, "", "composition"⟩,
   ⟨"compound", .string, .mandatory, "", "chemical formula"⟩,
   ⟨"corresponding", .strings, .optional, "", "coresponding"⟩,
   ⟨"data_api", .string, .mandatory, "", "REST API version"⟩,
   ⟨"data_language", .strings, .optional, "", "data language"⟩,
   ⟨"data_source", .strings, .optional, "", "data source"⟩,
   ⟨"delta_electronic_energy_convergence", .number, .optional,
     "", "Electronic Energy of Convergence Step"⟩,
   ⟨"delta_electronic_energy_threshold", .number, .optional,
     "", "Electronic Energy of Convergence Threshold"⟩,
   ⟨"density", .number, .optional, "grams/cm³", "mass density"⟩,
   ⟨"dft_type", .strings, .optional, "", "DFT type"⟩,
   ⟨"eentropy_atom", .number, .optional, "eV/atom", "atomistic electronic entropy"⟩,
   ⟨"eentropy_cell", .number, .optional, "eV/atom", "unit cell electronic entropy"⟩,
   ⟨"energy_atom", .number, .mandatory, "eV/atom", "atomic energy"⟩,
   ⟨"energy_cell", .number, .mandatory, "eV", "unit cell energy"⟩,
   ⟨"energy_cutoff", .numbers, .optional, "eV", "energy cutoff"⟩,
   ⟨"enthalpy_atom", .number, .mandatory, "eV/atom", "atomic enthalpy"⟩,
   ⟨"enthalpy_cell", .number, .mandatory, "eV", "unit cell enthalpy"⟩,
   ⟨"enthalpy_formation_atom", .number, .mandatory, "eV/atom", "atomic formation enthalpy"⟩,
   ⟨"enthalpy_formation_cell", .number, .mandatory, "eV", "unit cell formation enthalpy"⟩,
   ⟨"entropic_temperature", .number, .mandatory, "Kelvin", "entropic temperature"⟩,
   ⟨"files", .strings, .conditional, "", "I/O files"⟩,
   ⟨"forces", .matrix, .optional, "eV/Å", "Quantum Forces"⟩,
   ⟨"geometry", .numbers, .mandatory, "Å", "unit cell basis"⟩,
   ⟨"keywords", .strings, .mandatory, "", "Title"⟩,
   ⟨"kpoints", .kpoints, .optional, "", "K-point mesh"⟩,
   ⟨"lattice_system_orig", .string, .mandatory, "", "original lattice system"⟩,
   ⟨"lattice_system_relax", .string, .mandatory, "", "relaxed lattice system"⟩,
   ⟨"lattice_variation_orig", .string, .mandatory, "", "original lattice variation"⟩,
   ⟨"lattice_variation_relax", .string, .mandatory, "", "relaxed lattice variation"⟩,
   ⟨"ldau_TLUJ", .numbers, .mandatory, "", "on site coulomb interaction"⟩,
   ⟨"loop", .strings, .optional, "", "process category"⟩,
   ⟨"natoms", .number, .mandatory, "", "number of atoms in unit cell"⟩,
   ⟨"nbondxx", .numbers, .optional, "Å", "nearest neighbor bond lengths"⟩,
   ⟨"node_CPU_Cores", .number, .optional, "", "available CPU cores"⟩,
   ⟨"node_CPU_MHz", .number, .optional, "Megahertz", "CPU rate"⟩,
   ⟨"node_CPU_Model", .string, .optional, "", "CPU model"⟩,
   ⟨"node_RAM_GB", .number, .optional, "Gigabytes", "available RAM"⟩,
   ⟨"nspecies", .number, .mandatory, "", "species count"⟩,
   ⟨"positions_cartesian", .matrix, .mandatory, "Å", "relaxed absolute positions"⟩,
   ⟨"positions_fractional", .matrix, .mandatory, "", "relaxed relative positions"⟩,
   ⟨"pressure", .number, .mandatory, "kbar", "external pressure"⟩,
   ⟨"pressure_final", .number, .mandatory, "kbar", "resulting pressure"⟩,
   ⟨"pressure_residual", .number, .mandatory, "kbar", "residual pressure"⟩,
   ⟨"prototype", .string, .mandatory, "", "original prototype"⟩,
   ⟨"scintillation_attenuation_length", .number, .mandatory, "cm", "attenuation length"⟩,
   ⟨"sg", .strings, .mandatory, "", "space group of compound"⟩,
   ⟨"sg2", .strings, .mandatory, "", "refined space group of compound"⟩,
   ⟨"spacegroup_orig", .number, .mandatory, "", "original space group number"⟩,
   ⟨"spacegroup_relax", .number, .mandatory, "", "relaxed space group number"⟩,
   ⟨"species", .strings, .mandatory, "", "atomic species"⟩,
   ⟨"species_pp", .strings, .mandatory, "", "pseudopotential of chemical speciess"⟩,
   ⟨"species_pp_ZVAL", .numbers, .optional, "electrons", "valence atoms per species"⟩,
   ⟨"species_pp_version", .strings, .mandatory, "", "pseudopotential version and species"⟩,
   ⟨"spinD", .vector, .mandatory, "μB", "spin decomposition over unit cell"⟩,
   ⟨"spinF", .number, .mandatory, "μB", "magnetization of unit cell at Fermi level"⟩,
   ⟨"spin_atom", .number, .mandatory, "μB/atom", "atomic spin polarization"⟩,
   ⟨"spin_cell", .number, .mandatory, "μB", "unit cell spin polarization"⟩,
   ⟨"sponsor", .strings, .optional, "", "sponsor"⟩,
   ⟨"stoich", .numbers, .optional, "", "unit cell stoichiometry"⟩,
   ⟨"stoichiometry", .numbers, .mandatory, "", "unit cell stoichiometry"⟩,
   ⟨"stress_tensor", .numbers, .mandatory, "", "Stress Tensor"⟩,
   ⟨"valence_cell_iupac", .number, .mandatory, "", "unit cell IUPAC valence"⟩,
   ⟨"valence_cell_std", .number, .mandatory, "", "unit cell standard valence"⟩,
   ⟨"volume_atom", .number, .mandatory, "Å³/atom", "atomic volume"⟩,
   ⟨"volume_cell", .number, .mandatory, "Å³", "unit cell volume"⟩]

/-! ## §2. Looking keywords up. -/

/-- The keyword of exactly this name. -/
def find? (name : String) : Option Field :=
  catalog.find? fun f => f.name == name

/-- The identifier of an entry. -/
def Field.auid : Field :=
  ⟨"auid", .string, .mandatory, "", "AFLOWLIB Unique Identifier"⟩

/-- The location of an entry. -/
def Field.aurl : Field :=
  ⟨"aurl", .string, .mandatory, "", "AFLOWLIB Uniform Resource Locator"⟩

/-- The names of the files of an entry. -/
def Field.files : Field :=
  ⟨"files", .strings, .conditional, "", "I/O files"⟩

theorem find?_name {name : String} {f : Field} (h : find? name = some f) :
    f.name = name := by
  have := List.find?_some h
  simpa using this

theorem mem_catalog_of_find? {name : String} {f : Field} (h : find? name = some f) :
    f ∈ catalog := List.mem_of_find?_eq_some h

/-! ## §3. Examples. -/

example : find? "auid" = some .auid := by decide
example : find? "aurl" = some .aurl := by decide
example : find? "files" = some .files := by decide
example : find? "Auid" = none := by decide

end MaterialSearch.Keyword
