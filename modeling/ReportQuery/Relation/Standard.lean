import ReportQuery.Relation.Graph

/-!
# The standard graph

The relations of the sales schema: brands with their sub-brands, stores, channels and menu, and
sales with their products, deliveries, payments and coupons. Every key refers to the column `id`
of its table and is named after that table.
-/

namespace ReportQuery.Relation

/-- Edges from each of the owners to one table, by a column of the same name. -/
def edgesTo (referenced : String) (column : String) (owners : List String) : List Edge :=
  owners.map fun owner ↦
    { owner := .text owner, referenced := .text referenced, column := .text column }

/-- The edges of the standard graph, grouped by the referenced table. -/
def standardEdges : List Edge :=
  edgesTo "brands" "brand_id" ["sub_brands", "stores", "channels", "categories", "products",
    "option_groups", "items", "payment_types", "coupons"] ++
  edgesTo "sub_brands" "sub_brand_id" ["stores", "categories", "products", "option_groups",
    "items", "customers", "sales"] ++
  edgesTo "stores" "store_id" ["customers", "sales"] ++
  edgesTo "channels" "channel_id" ["sales"] ++
  edgesTo "categories" "category_id" ["products", "option_groups", "items"] ++
  edgesTo "products" "product_id" ["product_sales"] ++
  edgesTo "option_groups" "option_group_id" ["item_product_sales", "item_item_product_sales"] ++
  edgesTo "items" "item_id" ["item_product_sales", "item_item_product_sales"] ++
  edgesTo "customers" "customer_id" ["sales"] ++
  edgesTo "sales" "sale_id" ["product_sales", "delivery_sales", "delivery_addresses", "payments",
    "coupon_sales"] ++
  edgesTo "product_sales" "product_sale_id" ["item_product_sales"] ++
  edgesTo "item_product_sales" "item_product_sale_id" ["item_item_product_sales"] ++
  edgesTo "delivery_sales" "delivery_sale_id" ["delivery_addresses"] ++
  edgesTo "payment_types" "payment_type_id" ["payments"] ++
  edgesTo "coupons" "coupon_id" ["coupon_sales"]

/-- The graph of the standard edges. -/
def Graph.standard : Graph :=
  .ofEdges standardEdges

end ReportQuery.Relation
