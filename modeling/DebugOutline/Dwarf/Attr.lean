import DebugOutline.Text.Layout

/-! Attribute names say which property of an entry a value gives. -/
namespace DebugOutline.Dwarf

/-- The name of an attribute, as numbered by the format. -/
structure Attr where
  code : UInt16
  deriving DecidableEq, Hashable, Inhabited, Repr

/-- Every registered attribute with its name. -/
def attrNames : List (UInt16 × String) :=
  [(0x00, "null"), (0x01, "sibling"), (0x02, "location"), (0x03, "name"), (0x05, "fund_type"),
  (0x06, "mod_fund_type"), (0x07, "user_def_type"), (0x08, "mod_u_d_type"), (0x09, "ordering"),
  (0x0a, "subscr_data"), (0x0b, "byte_size"), (0x0c, "bit_offset"), (0x0d, "bit_size"),
  (0x0f, "element_list"), (0x10, "stmt_list"), (0x11, "low_pc"), (0x12, "high_pc"),
  (0x13, "language"), (0x14, "member"), (0x15, "discr"), (0x16, "discr_value"),
  (0x17, "visibility"), (0x18, "import"), (0x19, "string_length"), (0x1a, "common_reference"),
  (0x1b, "comp_dir"), (0x1c, "const_value"), (0x1d, "containing_type"), (0x1e, "default_value"),
  (0x1f, "friends"), (0x20, "inline"), (0x21, "is_optional"), (0x22, "lower_bound"),
  (0x23, "program"), (0x24, "private"), (0x25, "producer"), (0x26, "protected"),
  (0x27, "prototyped"), (0x28, "public"), (0x29, "pure_virtual"), (0x2a, "return_addr"),
  (0x2b, "specification_v1"), (0x2c, "start_scope"), (0x2e, "bit_stride"), (0x2f, "upper_bound"),
  (0x30, "virtual"), (0x31, "abstract_origin"), (0x32, "accessibility"), (0x33, "address_class"),
  (0x34, "artificial"), (0x35, "base_types"), (0x36, "calling_convention"), (0x37, "count"),
  (0x38, "data_member_location"), (0x39, "decl_column"), (0x3a, "decl_file"), (0x3b, "decl_line"),
  (0x3c, "declaration"), (0x3d, "discr_list"), (0x3e, "encoding"), (0x3f, "external"),
  (0x40, "frame_base"), (0x41, "friend"), (0x42, "identifier_case"), (0x43, "macro_info"),
  (0x44, "namelist_item"), (0x45, "priority"), (0x46, "segment"), (0x47, "specification"),
  (0x48, "static_link"), (0x49, "type"), (0x4a, "use_location"), (0x4b, "variable_parameter"),
  (0x4c, "virtuality"), (0x4d, "vtable_elem_location"), (0x4e, "allocated"), (0x4f, "associated"),
  (0x50, "data_location"), (0x51, "byte_stride"), (0x52, "entry_pc"), (0x53, "use_UTF8"),
  (0x54, "extension"), (0x55, "ranges"), (0x56, "trampoline"), (0x57, "call_column"),
  (0x58, "call_file"), (0x59, "call_line"), (0x5a, "description"), (0x5b, "binary_scale"),
  (0x5c, "decimal_scale"), (0x5d, "small"), (0x5e, "decimal_sign"), (0x5f, "digit_count"),
  (0x60, "picture_string"), (0x61, "mutable"), (0x62, "threads_scaled"), (0x63, "explicit"),
  (0x64, "object_pointer"), (0x65, "endianity"), (0x66, "elemental"), (0x67, "pure"),
  (0x68, "recursive"), (0x69, "signature"), (0x6a, "main_subprogram"), (0x6b, "data_bit_offset"),
  (0x6c, "const_expr"), (0x6d, "enum_class"), (0x6e, "linkage_name"),
  (0x6f, "string_length_bit_size"), (0x70, "string_length_byte_size"), (0x71, "rank"),
  (0x72, "str_offsets_base"), (0x73, "addr_base"), (0x74, "rnglists_base"), (0x76, "dwo_name"),
  (0x77, "reference"), (0x78, "rvalue_reference"), (0x79, "macros"), (0x7a, "call_all_calls"),
  (0x7b, "call_all_source_calls"), (0x7c, "call_all_tail_calls"), (0x7d, "call_return_pc"),
  (0x7e, "call_value"), (0x7f, "call_origin"), (0x80, "call_parameter"), (0x81, "call_pc"),
  (0x82, "call_tail_call"), (0x83, "call_target"), (0x84, "call_target_clobbered"),
  (0x85, "call_data_location"), (0x86, "call_data_value"), (0x87, "noreturn"), (0x88, "alignment"),
  (0x89, "export_symbols"), (0x8a, "deleted"), (0x8b, "defaulted"), (0x8c, "loclists_base"),
  (0x2000, "lo_user"), (0x2001, "MIPS_fde"), (0x2002, "MIPS_loop_begin"),
  (0x2003, "MIPS_tail_loop_begin"), (0x2004, "MIPS_epilog_begin"),
  (0x2005, "MIPS_loop_unroll_factor"), (0x2006, "MIPS_software_pipeline_depth"),
  (0x2007, "MIPS_linkage_name"), (0x2008, "MIPS_stride"), (0x2009, "MIPS_abstract_name"),
  (0x200a, "MIPS_clone_origin"), (0x200b, "MIPS_has_inlines"), (0x200c, "MIPS_stride_byte"),
  (0x200d, "MIPS_stride_elem"), (0x200e, "MIPS_ptr_dopetype"),
  (0x200f, "MIPS_allocatable_dopetype"), (0x2010, "MIPS_assumed_shape_dopetype"),
  (0x2011, "MIPS_assumed_size"), (0x2026, "INTEL_other_endian"), (0x2101, "sf_names"),
  (0x2102, "src_info"), (0x2103, "mac_info"), (0x2104, "src_coords"), (0x2105, "body_begin"),
  (0x2106, "body_end"), (0x2107, "GNU_vector"), (0x2108, "GNU_guarded_by"),
  (0x2109, "GNU_pt_guarded_by"), (0x210a, "GNU_guarded"), (0x210b, "GNU_pt_guarded"),
  (0x210c, "GNU_locks_excluded"), (0x210d, "GNU_exclusive_locks_required"),
  (0x210e, "GNU_shared_locks_required"), (0x210f, "GNU_odr_signature"),
  (0x2110, "GNU_template_name"), (0x2111, "GNU_call_site_value"),
  (0x2112, "GNU_call_site_data_value"), (0x2113, "GNU_call_site_target"),
  (0x2114, "GNU_call_site_target_clobbered"), (0x2115, "GNU_tail_call"),
  (0x2116, "GNU_all_tail_call_sites"), (0x2117, "GNU_all_call_sites"),
  (0x2118, "GNU_all_source_call_sites"), (0x2119, "GNU_macros"), (0x211a, "GNU_deleted"),
  (0x2130, "GNU_dwo_name"), (0x2131, "GNU_dwo_id"), (0x2132, "GNU_ranges_base"),
  (0x2133, "GNU_addr_base"), (0x2134, "GNU_pubnames"), (0x2135, "GNU_pubtypes"),
  (0x2136, "GNU_discriminator"), (0x2137, "GNU_locviews"), (0x2138, "GNU_entry_view"),
  (0x2201, "SUN_template"), (0x2202, "SUN_alignment"), (0x2203, "SUN_vtable"),
  (0x2204, "SUN_count_guarantee"), (0x2205, "SUN_command_line"), (0x2206, "SUN_vbase"),
  (0x2207, "SUN_compile_options"), (0x2208, "SUN_language"), (0x2209, "SUN_browser_file"),
  (0x2210, "SUN_vtable_abi"), (0x2211, "SUN_func_offsets"), (0x2212, "SUN_cf_kind"),
  (0x2213, "SUN_vtable_index"), (0x2214, "SUN_omp_tpriv_addr"), (0x2215, "SUN_omp_child_func"),
  (0x2216, "SUN_func_offset"), (0x2217, "SUN_memop_type_ref"), (0x2218, "SUN_profile_id"),
  (0x2219, "SUN_memop_signature"), (0x2220, "SUN_obj_dir"), (0x2221, "SUN_obj_file"),
  (0x2222, "SUN_original_name"), (0x2223, "SUN_hwcprof_signature"), (0x2224, "SUN_amd64_parmdump"),
  (0x2225, "SUN_part_link_name"), (0x2226, "SUN_link_name"), (0x2227, "SUN_pass_with_const"),
  (0x2228, "SUN_return_with_const"), (0x2229, "SUN_import_by_name"), (0x222a, "SUN_f90_pointer"),
  (0x222b, "SUN_pass_by_ref"), (0x222c, "SUN_f90_allocatable"),
  (0x222d, "SUN_f90_assumed_shape_array"), (0x222e, "SUN_c_vla"), (0x2230, "SUN_return_value_ptr"),
  (0x2231, "SUN_dtor_start"), (0x2232, "SUN_dtor_length"), (0x2233, "SUN_dtor_state_initial"),
  (0x2234, "SUN_dtor_state_final"), (0x2235, "SUN_dtor_state_deltas"),
  (0x2236, "SUN_import_by_lname"), (0x2237, "SUN_f90_use_only"), (0x2238, "SUN_namelist_spec"),
  (0x2239, "SUN_is_omp_child_func"), (0x223a, "SUN_fortran_main_alias"),
  (0x223b, "SUN_fortran_based"), (0x2300, "ALTIUM_loclist"), (0x2301, "use_GNAT_descriptive_type"),
  (0x2302, "GNAT_descriptive_type"), (0x2303, "GNU_numerator"), (0x2304, "GNU_denominator"),
  (0x2305, "GNU_bias"), (0x3210, "upc_threads_scaled"), (0x3a00, "PGI_lbase"),
  (0x3a01, "PGI_soffset"), (0x3a02, "PGI_lstride"), (0x3b11, "BORLAND_property_read"),
  (0x3b12, "BORLAND_property_write"), (0x3b13, "BORLAND_property_implements"),
  (0x3b14, "BORLAND_property_index"), (0x3b15, "BORLAND_property_default"),
  (0x3b20, "BORLAND_Delphi_unit"), (0x3b21, "BORLAND_Delphi_class"),
  (0x3b22, "BORLAND_Delphi_record"), (0x3b23, "BORLAND_Delphi_metaclass"),
  (0x3b24, "BORLAND_Delphi_constructor"), (0x3b25, "BORLAND_Delphi_destructor"),
  (0x3b26, "BORLAND_Delphi_anonymous_method"), (0x3b27, "BORLAND_Delphi_interface"),
  (0x3b28, "BORLAND_Delphi_ABI"), (0x3b29, "BORLAND_Delphi_return"),
  (0x3b30, "BORLAND_Delphi_frameptr"), (0x3b31, "BORLAND_closure"), (0x3e00, "LLVM_include_path"),
  (0x3e01, "LLVM_config_macros"), (0x3e02, "LLVM_isysroot"), (0x3fe1, "APPLE_optimized"),
  (0x3fe2, "APPLE_flags"), (0x3fe3, "APPLE_isa"), (0x3fe4, "APPLE_block"),
  (0x3fe5, "APPLE_major_runtime_vers"), (0x3fe6, "APPLE_runtime_class"),
  (0x3fe7, "APPLE_omit_frame_ptr"), (0x3fe8, "APPLE_property_name"),
  (0x3fe9, "APPLE_property_getter"), (0x3fea, "APPLE_property_setter"),
  (0x3feb, "APPLE_property_attribute"), (0x3fec, "APPLE_objc_complete_type"),
  (0x3fed, "APPLE_property"), (0x3fff, "hi_user")]

/-- The registered name, or the code in base sixteen when it has none. -/
def Attr.display (attr : Attr) : String :=
  match attrNames.lookup attr.code with
  | some name => "DW_AT_" ++ name
  | none => "0x" ++ Text.zeroFill 4 (Text.hex attr.code.toNat)

namespace Attr

@[match_pattern] def location : Attr := ⟨0x02⟩
@[match_pattern] def name : Attr := ⟨0x03⟩
@[match_pattern] def ordering : Attr := ⟨0x09⟩
@[match_pattern] def byteSize : Attr := ⟨0x0b⟩
@[match_pattern] def bitOffset : Attr := ⟨0x0c⟩
@[match_pattern] def bitSize : Attr := ⟨0x0d⟩
@[match_pattern] def stmtList : Attr := ⟨0x10⟩
@[match_pattern] def lowPc : Attr := ⟨0x11⟩
@[match_pattern] def highPc : Attr := ⟨0x12⟩
@[match_pattern] def language : Attr := ⟨0x13⟩
@[match_pattern] def visibility : Attr := ⟨0x17⟩
@[match_pattern] def importEntry : Attr := ⟨0x18⟩
@[match_pattern] def stringLength : Attr := ⟨0x19⟩
@[match_pattern] def constValue : Attr := ⟨0x1c⟩
@[match_pattern] def inlineCode : Attr := ⟨0x20⟩
@[match_pattern] def lowerBound : Attr := ⟨0x22⟩
@[match_pattern] def returnAddr : Attr := ⟨0x2a⟩
@[match_pattern] def startScope : Attr := ⟨0x2c⟩
@[match_pattern] def bitStride : Attr := ⟨0x2e⟩
@[match_pattern] def upperBound : Attr := ⟨0x2f⟩
@[match_pattern] def abstractOrigin : Attr := ⟨0x31⟩
@[match_pattern] def accessibility : Attr := ⟨0x32⟩
@[match_pattern] def addressClass : Attr := ⟨0x33⟩
@[match_pattern] def artificial : Attr := ⟨0x34⟩
@[match_pattern] def callingConvention : Attr := ⟨0x36⟩
@[match_pattern] def count : Attr := ⟨0x37⟩
@[match_pattern] def dataMemberLocation : Attr := ⟨0x38⟩
@[match_pattern] def declColumn : Attr := ⟨0x39⟩
@[match_pattern] def declFile : Attr := ⟨0x3a⟩
@[match_pattern] def declLine : Attr := ⟨0x3b⟩
@[match_pattern] def declaration : Attr := ⟨0x3c⟩
@[match_pattern] def encoding : Attr := ⟨0x3e⟩
@[match_pattern] def external : Attr := ⟨0x3f⟩
@[match_pattern] def frameBase : Attr := ⟨0x40⟩
@[match_pattern] def identifierCase : Attr := ⟨0x42⟩
@[match_pattern] def macroInfo : Attr := ⟨0x43⟩
@[match_pattern] def segment : Attr := ⟨0x46⟩
@[match_pattern] def specification : Attr := ⟨0x47⟩
@[match_pattern] def staticLink : Attr := ⟨0x48⟩
@[match_pattern] def type : Attr := ⟨0x49⟩
@[match_pattern] def useLocation : Attr := ⟨0x4a⟩
@[match_pattern] def virtuality : Attr := ⟨0x4c⟩
@[match_pattern] def vtableElemLocation : Attr := ⟨0x4d⟩
@[match_pattern] def allocated : Attr := ⟨0x4e⟩
@[match_pattern] def associated : Attr := ⟨0x4f⟩
@[match_pattern] def dataLocation : Attr := ⟨0x50⟩
@[match_pattern] def byteStride : Attr := ⟨0x51⟩
@[match_pattern] def extension : Attr := ⟨0x54⟩
@[match_pattern] def ranges : Attr := ⟨0x55⟩
@[match_pattern] def callColumn : Attr := ⟨0x57⟩
@[match_pattern] def callFile : Attr := ⟨0x58⟩
@[match_pattern] def callLine : Attr := ⟨0x59⟩
@[match_pattern] def decimalSign : Attr := ⟨0x5e⟩
@[match_pattern] def endianity : Attr := ⟨0x65⟩
@[match_pattern] def enumClass : Attr := ⟨0x6d⟩
@[match_pattern] def rank : Attr := ⟨0x71⟩
@[match_pattern] def strOffsetsBase : Attr := ⟨0x72⟩
@[match_pattern] def addrBase : Attr := ⟨0x73⟩
@[match_pattern] def macros : Attr := ⟨0x79⟩
@[match_pattern] def callValue : Attr := ⟨0x7e⟩
@[match_pattern] def callOrigin : Attr := ⟨0x7f⟩
@[match_pattern] def callTarget : Attr := ⟨0x83⟩
@[match_pattern] def callTargetClobbered : Attr := ⟨0x84⟩
@[match_pattern] def callDataLocation : Attr := ⟨0x85⟩
@[match_pattern] def callDataValue : Attr := ⟨0x86⟩
@[match_pattern] def gnuTemplateName : Attr := ⟨0x2110⟩
@[match_pattern] def gnuDwoId : Attr := ⟨0x2131⟩
@[match_pattern] def gnuAddrBase : Attr := ⟨0x2133⟩

end Attr

end DebugOutline.Dwarf
